import DartModels.Diagnostic
import DartModels.Proofs.Json.Layout
import DartModels.SourceError

/-!
# What messages tell

A finding quotes the texts that it is about, so its message can be taken apart again: the number
ends where its digits do, and each literal at its own quote, whatever the texts hold and however
much they look like the message. Since literals escape the line breaks, a finding is one line.

An error does not quote its texts, but there is only one of them in a message, with nothing behind
it or always the same, and the message opens with a word that tells the kind of error.

Results:
* `quote_append_inj`, `toString_append_inj`: what a quoted text and a number tell in front of
  something;
* `Diagnostic.message_injective`, `SourceError.message_injective`: a finding and an error can be
  told from their messages;
* `Diagnostic.le_of_mem_message`: there is no control below the space in a finding;
* `messages_unambiguous`: findings and errors.
-/

namespace DartModels

/-! ## Parts of messages -/

/-- A quoted text ends at its own quote. -/
theorem quote_append_inj {s t u v : String} (h : Json.quote s ++ u = Json.quote t ++ v) :
    s = t ∧ u = v := by
  have hlist := congrArg String.toList h
  simp only [Json.quote, String.toList_append, String.toList_ofList] at hlist
  exact (Json.toList_append_inj hlist).imp_right String.toList_inj.mp

/-- A number ends in front of a text that starts with something else than a digit. -/
theorem toString_append_inj {m n : Nat} {p s t : String}
    (hp : (p.toList.head?.any fun c => !c.isDigit) = true)
    (h : toString m ++ (p ++ s) = toString n ++ (p ++ t)) : m = n ∧ s = t := by
  have hstops : ∀ u, Json.Stops (p.toList ++ u) := by
    intro u
    cases hl : p.toList with
    | nil =>
      rw [hl] at hp
      cases hp
    | cons c l =>
      rw [hl] at hp
      exact Json.stops_cons (by simpa using hp) (l ++ u)
  have hlist := congrArg String.toList h
  simp only [String.toList_append, Nat.toString_eq_repr, Nat.toList_repr] at hlist
  obtain ⟨rfl, hrest⟩ := Json.toDigits_append_inj (hstops _) (hstops _) hlist
  exact ⟨rfl, String.toList_inj.mp (List.append_cancel_left hrest)⟩

/-- Digits are no controls. -/
theorem le_of_mem_toDigits {base : Nat} (hb : 1 < base) (hle : base ≤ 16) {n : Nat} {c : Char}
    (h : c ∈ Nat.toDigits base n) : 0x20 ≤ c.toNat := by
  induction n using Nat.strongRecOn with
  | ind n ih =>
    by_cases hn : n < base
    · rw [Nat.toDigits_of_lt_base hn, List.mem_singleton] at h
      rw [h]
      exact Json.le_digitChar (Nat.lt_of_lt_of_le hn hle)
    · rw [Nat.toDigits_of_base_le hb (Nat.le_of_not_lt hn), List.mem_append,
        List.mem_singleton] at h
      rcases h with h | rfl
      · exact ih (n / base) (Nat.div_lt_self (by omega) hb) h
      · exact Json.le_digitChar (Nat.lt_of_lt_of_le (Nat.mod_lt n (by omega)) hle)

theorem le_of_mem_toString {n : Nat} {c : Char} (h : c ∈ (toString n).toList) :
    0x20 ≤ c.toNat := by
  rw [Nat.toString_eq_repr, Nat.toList_repr] at h
  exact le_of_mem_toDigits (by decide) (by decide) h

theorem le_of_mem_quote {s : String} {c : Char} (h : c ∈ (Json.quote s).toList) :
    0x20 ≤ c.toNat := by
  rw [Json.quote, String.toList_ofList] at h
  exact Json.le_of_mem_literal h

/-! ## Findings -/

namespace Diagnostic

/-- **A finding can be told from its message.** -/
theorem message_injective : Function.Injective message := by
  rintro ⟨field, token, line⟩ ⟨field', token', line'⟩ h
  simp only [message, String.append_assoc, String.append_right_inj] at h
  obtain ⟨rfl, htoken⟩ := toString_append_inj (by decide) h
  obtain ⟨rfl, hmiddle⟩ := quote_append_inj htoken
  rw [String.append_right_inj] at hmiddle
  obtain ⟨rfl, -⟩ := quote_append_inj hmiddle
  rfl

/-- **No control below the space stands in a finding.** -/
theorem le_of_mem_message {d : Diagnostic} {c : Char} (h : c ∈ d.message.toList) :
    0x20 ≤ c.toNat := by
  have hfixed {s : String} (hs : s.toList.all (0x20 ≤ ·.toNat) = true) (hc : c ∈ s.toList) :
      0x20 ≤ c.toNat :=
    of_decide_eq_true (List.all_eq_true.mp hs c hc)
  obtain ⟨field, token, line⟩ := d
  simp only [message, String.toList_append, List.mem_append] at h
  rcases h with (((((h | h) | h) | h) | h) | h) | h
  · exact hfixed (by decide) h
  · exact le_of_mem_toString h
  · exact hfixed (by decide) h
  · exact le_of_mem_quote h
  · exact hfixed (by decide) h
  · exact le_of_mem_quote h
  · exact hfixed (by decide) h

end Diagnostic

/-! ## Errors -/

namespace SourceError

/-- What the messages of errors of one kind start with. -/
def opening : SourceError → String
  | malformed _ _ => "Malformed input at line "
  | missingAssignment _ _ => "Missing \"=\" in declaration at line "
  | missingReference _ => "ForeignKey field \""
  | invalidClassName _ => "Invalid class name \""

/-- What the message of an error goes on with. -/
def particulars : SourceError → String
  | malformed reason line => toString line ++ (": " ++ reason)
  | missingAssignment text line => toString line ++ (": " ++ text)
  | missingReference field => field ++ "\" has no referenced model"
  | invalidClassName name => name ++ "\""

theorem message_eq (e : SourceError) : e.message = e.opening ++ e.particulars := by
  unfold message opening particulars
  cases e <;> simp only [String.append_assoc]

/-- The second character of a message tells the kind of the error. -/
theorem getElem?_message (e : SourceError) : e.message.toList[1]? = e.opening.toList[1]? := by
  rw [message_eq, String.toList_append, List.getElem?_append_left]
  cases e <;> simp only [opening] <;> decide

/-- **An error can be told from its message.** -/
theorem message_injective : Function.Injective message := by
  intro e f h
  have hkind : e.opening.toList[1]? = f.opening.toList[1]? := by
    rw [← getElem?_message, h, getElem?_message]
  rw [message_eq, message_eq] at h
  cases e with
  | malformed reason line =>
    cases f with
    | malformed reason' line' =>
      obtain ⟨rfl, rfl⟩ := toString_append_inj (by decide) ((String.append_right_inj _).mp h)
      rfl
    | missingAssignment | missingReference | invalidClassName => simp [opening] at hkind
  | missingAssignment text line =>
    cases f with
    | missingAssignment text' line' =>
      obtain ⟨rfl, rfl⟩ := toString_append_inj (by decide) ((String.append_right_inj _).mp h)
      rfl
    | malformed | missingReference | invalidClassName => simp [opening] at hkind
  | missingReference field =>
    cases f with
    | missingReference field' =>
      rw [(String.append_left_inj _).mp ((String.append_right_inj _).mp h)]
    | malformed | missingAssignment | invalidClassName => simp [opening] at hkind
  | invalidClassName name =>
    cases f with
    | invalidClassName name' =>
      rw [(String.append_left_inj _).mp ((String.append_right_inj _).mp h)]
    | malformed | missingAssignment | missingReference => simp [opening] at hkind

end SourceError

/-! ## Findings and errors -/

/-- **Findings and errors can be told from their messages**, whatever the texts in them hold. And a
finding has no control below the space, so that it is one line. -/
theorem messages_unambiguous :
    (∀ d d' : Diagnostic, d.message = d'.message → d = d') ∧
      (∀ d : Diagnostic, ∀ c ∈ d.message.toList, 0x20 ≤ c.toNat) ∧
      ∀ e e' : SourceError, e.message = e'.message → e = e' :=
  ⟨fun _ _ h => Diagnostic.message_injective h, fun _ _ => Diagnostic.le_of_mem_message,
    fun _ _ h => SourceError.message_injective h⟩

/-- Names and tokens that imitate what stands behind them in the message, a name with a line feed,
and a line that an error's text seems to go on. -/
theorem messages_unambiguous_imitation :
    (Diagnostic.unresolvedType "b" "X\" for field \"a" 1).message ≠
        (Diagnostic.unresolvedType "a\" for field \"b" "X" 1).message ∧
      (∀ c ∈ (Diagnostic.unresolvedType "a\nb" "\x1bX" 1).message.toList, 0x20 ≤ c.toNat) ∧
      (SourceError.malformed "2: a" 1).message ≠ (SourceError.malformed "a" 12).message := by
  refine ⟨fun h => ?_, messages_unambiguous.2.1 _, fun h => ?_⟩
  · exact absurd (messages_unambiguous.1 _ _ h) (by decide)
  · exact absurd (messages_unambiguous.2.2 _ _ h) (by decide)

end DartModels
