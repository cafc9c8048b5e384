/-!
# String literals of JSON

The two characters that a literal cannot hold bare, the quote and the backslash, and every
control below the space are escaped; five controls have a letter, the others take four hexadecimal
digits in lower case. All else stands as it is, DEL and non-ASCII included.

Result: a literal holds no control below the space, so it never breaks a line (`le_of_mem_literal`).
-/

namespace DartModels.Json

/-- The characters that stand for `c` inside a literal. -/
def escape (c : Char) : List Char :=
  if c = '"' then ['\\', '"']
  else if c = '\\' then ['\\', '\\']
  else if c = '\x08' then ['\\', 'b']
  else if c = '\x0c' then ['\\', 'f']
  else if c = '\n' then ['\\', 'n']
  else if c = '\r' then ['\\', 'r']
  else if c = '\t' then ['\\', 't']
  else if c.toNat < 0x20 then
    ['\\', 'u', '0', '0', Nat.digitChar (c.toNat / 16), Nat.digitChar (c.toNat % 16)]
  else [c]

/-- The literal of a text, with its quotes. -/
def literal (s : List Char) : List Char :=
  '"' :: s.flatMap escape ++ ['"']

/-- The literal of a text, with its quotes (`utils::quote`). -/
def quote (s : String) : String :=
  String.ofList (literal s.toList)

theorem le_digitChar {n : Nat} (h : n < 16) : 0x20 ≤ (Nat.digitChar n).toNat := by
  revert n; decide

theorem le_of_mem_pair {d e : Char} (he : 0x20 ≤ e.toNat) (h : d ∈ ['\\', e]) : 0x20 ≤ d.toNat := by
  simp only [List.mem_cons, List.not_mem_nil, or_false] at h
  rcases h with rfl | rfl
  · decide
  · exact he

theorem le_of_mem_escape {c d : Char} (h : d ∈ escape c) : 0x20 ≤ d.toNat := by
  have hex : c.toNat < 0x20 → 0x20 ≤ (Nat.digitChar (c.toNat / 16)).toNat ∧
      0x20 ≤ (Nat.digitChar (c.toNat % 16)).toNat := fun hc =>
    ⟨le_digitChar (by omega), le_digitChar (Nat.mod_lt _ (by omega))⟩
  unfold escape at h
  split at h
  case isTrue => exact le_of_mem_pair (by decide) h
  case isFalse =>
    repeat (split at h; · exact le_of_mem_pair (by decide) h)
    split at h
    · rename_i hc
      simp only [List.mem_cons, List.not_mem_nil, or_false] at h
      rcases h with rfl | rfl | rfl | rfl | rfl | rfl
      · decide
      · decide
      · decide
      · decide
      · exact (hex hc).1
      · exact (hex hc).2
    · rename_i hc
      rw [List.mem_singleton.mp h]
      exact Nat.le_of_not_lt hc

theorem le_of_mem_literal {s : List Char} {d : Char} (h : d ∈ literal s) : 0x20 ≤ d.toNat := by
  simp only [literal, List.cons_append, List.mem_cons, List.mem_append, List.mem_flatMap,
    List.not_mem_nil, or_false] at h
  rcases h with rfl | ⟨c, -, hc⟩ | rfl
  · decide
  · exact le_of_mem_escape hc
  · decide

end DartModels.Json
