import DartModels.Field.Parse
import DartModels.Proofs.Field.Callee

/-!
# What the right side of a declaration says

Behind a name, the right side of a declaration is a call or it is not, and if it is one, it is one
in one way. A field takes the token from it, and its arguments only if it is a reference: not what
stands before the token, nor any blanks. A right side that is no call leaves everything open.

Results: `ofText_of_cut`, for a text that has a name; `ofCall_of_ne_referenceToken`, for a call that
is no reference; `ofText_rightSide`.
-/

namespace DartModels

open Text

namespace Field

theorem ofText_of_cut {text : String} {left right : List Char} {camelCase : Bool}
    (hv : isVoid text.toList = false) (hcut : cut? '=' (trim text.toList) = some (left, right))
    (hname : trim left ≠ []) (hmember : memberNameOf camelCase (trim left) ≠ []) (line : Nat) :
    ofText text line camelCase =
      (ofCall (trim left) (memberNameOf camelCase (trim left))
        ((Call.ofText? (trim right)).getD ⟨[], []⟩) line).map some := by
  simp [ofText, hv, hcut, hname, hmember]

/-- **A field that is no reference depends on its token only**, not on the arguments. -/
theorem ofCall_of_ne_referenceToken {token : List Char}
    (h : String.ofList token ≠ DartType.referenceToken) (name member arguments : List Char)
    (line : Nat) :
    ofCall name member ⟨token, arguments⟩ line =
      .ok ⟨String.ofList name, String.ofList member, String.ofList token, none,
        DartType.ofToken (String.ofList token) none, line⟩ := by
  simp [ofCall, Call.referenced, h, Except.map]

/-- **The right side of a declaration is recognised exactly by its grammar.** Let a text have a name
before its first equals sign, of which something is left in the member's name. If the right side is
a call, it is one in one way only, its token is the word before its first parenthesis, and the field
is read from this token and its arguments; if the token is that of no reference, from nothing else
in the right side. If the right side is no call, the field has no token, no reference and no
type. -/
theorem ofText_rightSide {text : String} {left right : List Char} {camelCase : Bool}
    (hv : isVoid text.toList = false) (hcut : cut? '=' (trim text.toList) = some (left, right))
    (hname : trim left ≠ []) (hmember : memberNameOf camelCase (trim left) ≠ []) (line : Nat) :
    (∀ token arguments, Call.IsCall token arguments (trim right) →
      (∀ token' arguments', Call.IsCall token' arguments' (trim right) →
        token' = token ∧ arguments' = arguments) ∧
      (∃ before behind, cut? '(' (trim right) = some (before, behind) ∧
        (trimEnd before).rtakeWhile Name.continuesWord = token) ∧
      ofText text line camelCase =
        (ofCall (trim left) (memberNameOf camelCase (trim left)) ⟨token, arguments⟩ line).map some ∧
      (String.ofList token ≠ "ForeignKey" → ofText text line camelCase =
        .ok (some ⟨String.ofList (trim left), String.ofList (memberNameOf camelCase (trim left)),
          String.ofList token, none, DartType.ofToken (String.ofList token) none, line⟩))) ∧
    ((∀ token arguments, ¬ Call.IsCall token arguments (trim right)) →
      ofText text line camelCase =
        .ok (some ⟨String.ofList (trim left), String.ofList (memberNameOf camelCase (trim left)),
          "", none, .unresolved, line⟩)) := by
  have hread := ofText_of_cut hv hcut hname hmember line
  constructor
  · intro token arguments hcall
    rw [(Call.ofText?_eq_some_iff (trimmed_trim right)).mpr hcall, Option.getD_some] at hread
    refine ⟨fun token' arguments' h' => hcall.unique h', hcall.token_eq, hread, fun ht => ?_⟩
    rw [hread, ofCall_of_ne_referenceToken ht]
    rfl
  · intro hnone
    rw [(Call.ofText?_eq_none_iff (trimmed_trim right)).mpr hnone, Option.getD_none] at hread
    rw [hread]
    rfl

/-- A reference with blanks around its dots, a call of a token that has no type, and a right side
with a dot too many. -/
theorem ofText_rightSide_dots :
    ofText "a = m\t. b .ForeignKey ('U(1).x',\n)" 3 false =
        .ok (some ⟨"a", "a", "ForeignKey", some "U(1).xModel", .reference "U(1).xModel", 3⟩) ∧
      ofText "a_ = F\u00A0(x(1).y()" 3 true = .ok (some ⟨"a_", "a", "F", none, .unresolved, 3⟩) ∧
      ofText "a = m..DateField()" 3 false = .ok (some ⟨"a", "a", "", none, .unresolved, 3⟩) := by
  have hreference : Call.IsCall "ForeignKey".toList "'U(1).x',\n".toList
      (trim " m\t. b .ForeignKey ('U(1).x',\n)".toList) :=
    .mk (.dot (show Name.isWord ['m'] = true by decide) (.singleton (c := '\t') (by decide))
      (.singleton (c := ' ') (by decide)) (.dot (show Name.isWord ['b'] = true by decide)
        (.singleton (c := ' ') (by decide)) .nil (.word (by decide))))
      (.singleton (c := ' ') (by decide))
  have hcall : Call.IsCall ['F'] "x(1).y(".toList (trim " F\u00A0(x(1).y()".toList) :=
    .mk (.word (by decide)) (.singleton (c := '\u00A0') (by decide))
  have hnone : ∀ token arguments, ¬ Call.IsCall token arguments (trim " m..DateField()".toList) :=
    (Call.ofText?_eq_none_iff (trimmed_trim _)).mp (by decide)
  have hcut : cut? '=' (trim "a = m\t. b .ForeignKey ('U(1).x',\n)".toList) =
      some ("a ".toList, " m\t. b .ForeignKey ('U(1).x',\n)".toList) := by decide
  have hcut' : cut? '=' (trim "a_ = F\u00A0(x(1).y()".toList) =
      some ("a_ ".toList, " F\u00A0(x(1).y()".toList) := by decide
  have hcut'' : cut? '=' (trim "a = m..DateField()".toList) =
      some ("a ".toList, " m..DateField()".toList) := by decide
  have hname : memberNameOf false (trim "a ".toList) ≠ [] := by decide
  have hname' : memberNameOf true (trim "a_ ".toList) ≠ [] := by decide
  refine ⟨?_, ?_, ?_⟩
  · have h := (ofText_rightSide (by decide) hcut (by decide) hname 3).1 _ _ hreference
    exact h.2.2.1
  · have h := (ofText_rightSide (by decide) hcut' (by decide) hname' 3).1 _ _ hcall
    exact h.2.2.2 (by decide)
  · exact (ofText_rightSide (by decide) hcut'' (by decide) hname 3).2 hnone

end Field

end DartModels
