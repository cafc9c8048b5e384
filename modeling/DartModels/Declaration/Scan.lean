import DartModels.SourceError
import DartModels.Text.Quoting
import DartModels.Text.Void

/-!
# Scanning a line for the end of a call

A scan starts outside string literals with some number of parentheses open, and counts them. It
stops at the parenthesis that brings the count to zero, behind which only white space or a comment
may stand; at a comment, which is dropped; or at the end of the line, where no literal may be open.
What it keeps is the part of the line that it has read. This is `CallScanner::scan`, whose depth and
place in a literal are arguments here.

Result: what is kept is the line up to a cut (`kept_isPrefixOf`).
-/

namespace DartModels.Declaration

/-- How far a line takes a call. -/
inductive Scanned
  /-- The call ends in this line, with the last character kept. -/
  | closed (kept : List Char)
  /-- So many parentheses are open at the end of the line. -/
  | pending (depth : Nat) (kept : List Char)
deriving DecidableEq, Repr

namespace Scanned

/-- The part of the line that counts. -/
def kept : Scanned → List Char
  | closed k => k
  | pending _ k => k

/-- One more character in front. -/
def cons (c : Char) : Scanned → Scanned
  | closed k => closed (c :: k)
  | pending d k => pending d (c :: k)

@[simp] theorem kept_cons (c : Char) (r : Scanned) : (r.cons c).kept = c :: r.kept := by
  cases r <;> rfl

end Scanned

open Text

/-- Scans the rest of a line with `depth` parentheses open. -/
def scanFrom (depth : Nat) : Quoting → List Char → Except Fault Scanned
  | .outside, [] => .ok (.pending depth [])
  | _, [] => .error .unterminatedLiteral
  | .outside, c :: s =>
    if c = '#' then .ok (.pending depth [])
    else if c = '(' then (scanFrom (depth + 1) .outside s).map (.cons c)
    else if c = ')' then
      match depth with
      | 0 => .error .unmatchedParenthesis
      | 1 =>
        if isVoid s then .ok (.closed [c])
        else .error (.textAfterCall (String.ofList (trim s)))
      | d + 2 => (scanFrom (d + 1) .outside s).map (.cons c)
    else (scanFrom depth (Quoting.outside.next c) s).map (.cons c)
  | q, c :: s => (scanFrom depth (q.next c) s).map (.cons c)

/-- Scans a line, or what stands in it behind the equals sign, with `depth` parentheses open. -/
def scan (depth : Nat) (line : List Char) : Except Fault Scanned :=
  scanFrom depth .outside line

/-- A scan of the rest of a line keeps its beginning. -/
theorem scanFrom_kept {depth : Nat} {q : Quoting} {s : List Char} {r : Scanned}
    (h : scanFrom depth q s = .ok r) : r.kept <+: s := by
  have step : ∀ {c : Char} {t : List Char} {e : Except Fault Scanned} {r : Scanned},
      (∀ r', e = .ok r' → r'.kept <+: t) → e.map (.cons c) = .ok r → r.kept <+: c :: t := by
    intro c t e r ih h
    cases e with
    | error f => simp [Except.map] at h
    | ok r' =>
      obtain rfl := Except.ok.inj h
      rw [Scanned.kept_cons]
      exact List.cons_prefix_cons.mpr ⟨rfl, ih r' rfl⟩
  fun_induction scanFrom depth q s generalizing r with
  | case1 => obtain rfl := Except.ok.inj h; exact List.nil_prefix
  | case2 => simp at h
  | case3 => obtain rfl := Except.ok.inj h; exact List.nil_prefix
  | case4 _ _ _ ih => exact step (fun _ => ih) h
  | case5 => simp at h
  | case6 => obtain rfl := Except.ok.inj h; simp [Scanned.kept]
  | case7 => simp at h
  | case8 _ _ _ _ ih => exact step (fun _ => ih) h
  | case9 _ _ _ _ _ _ ih => exact step (fun _ => ih) h
  | case10 _ _ _ _ _ ih => exact step (fun _ => ih) h

theorem kept_isPrefixOf {depth : Nat} {line : List Char} {r : Scanned}
    (h : scan depth line = .ok r) : r.kept <+: line :=
  scanFrom_kept h

end DartModels.Declaration
