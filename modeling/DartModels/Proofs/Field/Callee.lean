import DartModels.Field.Call
import DartModels.Proofs.Name
import DartModels.Proofs.Text.Joining
import Mathlib.Data.List.DropRight

/-!
# The grammar of calls

What a call is, without a reader: words joined by dots, with any blanks around a dot and behind the
last word, then a parenthesis, any text and a parenthesis at the end (`IsCall`). Nothing before the
first parenthesis can be one, so the words, the token among them, are what stands before it, and
the arguments what stands behind it.

Results:
* `callee?_eq_some_iff`: the token is the last of the words that dots join (`Dotted`);
* `Dotted.rtakeWhile_eq`: the token is the word that the callee ends with;
* `ofText?_eq_some_iff`, `ofText?_eq_none_iff`: a trimmed text is read as a call exactly if it is
  one, with its token and arguments.
-/

namespace DartModels

open Text

namespace Call

/-- Words joined by dots, with blanks before and behind a dot. The last of the words is `token`. -/
inductive Dotted (token : List Char) : List Char → Prop
  | word (h : Name.isWord token = true) : Dotted token token
  | dot {word before behind path : List Char} (hword : Name.isWord word = true)
      (hbefore : AllBlank before) (hbehind : AllBlank behind) (h : Dotted token path) :
      Dotted token (word ++ before ++ '.' :: (behind ++ path))

/-- A callee, blanks, a parenthesis, arguments and a parenthesis at the end. -/
inductive IsCall (token arguments : List Char) : List Char → Prop
  | mk {path blanks : List Char} (hpath : Dotted token path) (hblanks : AllBlank blanks) :
      IsCall token arguments (path ++ blanks ++ '(' :: (arguments ++ [')']))

/-! ## The callee -/

theorem Dotted.isWord {token path : List Char} (h : Dotted token path) :
    Name.isWord token = true := by
  induction h with
  | word h => exact h
  | dot _ _ _ _ ih => exact ih

/-- What stands in a callee. -/
theorem Dotted.mem_cases {token path : List Char} (h : Dotted token path) :
    ∀ c ∈ path, Name.continuesWord c = true ∨ isBlank c = true ∨ c = '.' := by
  induction h with
  | word h => exact fun c hc => Or.inl (Name.continuesWord_of_isWord h c hc)
  | dot hword hbefore hbehind _ ih =>
    intro c hc
    simp only [List.mem_append, List.mem_cons] at hc
    rcases hc with (hc | hc) | rfl | hc | hc
    · exact Or.inl (Name.continuesWord_of_isWord hword c hc)
    · exact Or.inr (Or.inl (hbefore c hc))
    · exact Or.inr (Or.inr rfl)
    · exact Or.inr (Or.inl (hbehind c hc))
    · exact ih c hc

theorem callee?_of_not_mem {w : List Char} (h : '.' ∉ w) :
    callee? w = if Name.isWord (trim w) then some (trim w) else none := by
  simp [callee?, List.splitOn_eq_singleton h]

theorem callee?_append_dot {w : List Char} (h : '.' ∉ w) (path : List Char) :
    callee? (w ++ '.' :: path) = if Name.isWord (trim w) then callee? path else none := by
  have hsplit : (w ++ '.' :: path).splitOn '.' = w :: path.splitOn '.' := by
    rw [List.splitOn_append_cons_self, List.splitOn_eq_singleton h, List.singleton_append]
  have hne : (path.splitOn '.').map trim ≠ [] := by
    simp
  simp only [callee?, hsplit, List.map_cons, List.all_cons, List.getLast?_cons_of_ne_nil hne]
  cases Name.isWord (trim w) <;> simp

/-- **The token is the last of the words that dots join**, if there is nothing else but blanks. -/
theorem callee?_eq_some_iff {path token : List Char} :
    callee? path = some token ↔ ∃ before words behind, AllBlank before ∧ AllBlank behind ∧
      path = before ++ words ++ behind ∧ Dotted token words := by
  constructor
  · intro h
    induction path using induction_pieces '.' with
    | last w hw =>
      rw [callee?_of_not_mem hw] at h
      split at h
      · rename_i hword
        obtain rfl := Option.some.inj h
        obtain ⟨a, b, ha, hb, hs⟩ := trim_split w
        exact ⟨a, trim w, b, ha, hb, hs, .word hword⟩
      · cases h
    | piece w path hw ih =>
      rw [callee?_append_dot hw] at h
      split at h
      · rename_i hword
        obtain ⟨before, words, behind, hbefore, hbehind, rfl, hwords⟩ := ih h
        obtain ⟨a, b, ha, hb, hs⟩ := trim_split w
        refine ⟨a, _, behind, ha, hbehind, ?_, .dot hword hb hbefore hwords⟩
        conv => lhs; rw [hs]
        simp only [List.append_assoc, List.cons_append]
      · cases h
  · rintro ⟨before, words, behind, hbefore, hbehind, rfl, hwords⟩
    induction hwords generalizing before with
    | word h =>
      have hdot : '.' ∉ before ++ token ++ behind := by
        simp only [List.mem_append, not_or]
        exact ⟨⟨hbefore.not_mem (by decide), Name.not_mem_of_isWord h (by decide)⟩,
          hbehind.not_mem (by decide)⟩
      rw [callee?_of_not_mem hdot, trim_append_blank hbehind, trim_blank_append hbefore,
        (Name.trimmed_of_isWord h).trim_eq, if_pos h]
    | @dot w b b' path hw hb hb' _ ih =>
      have hdot : '.' ∉ before ++ w ++ b := by
        simp only [List.mem_append, not_or]
        exact ⟨⟨hbefore.not_mem (by decide), Name.not_mem_of_isWord hw (by decide)⟩,
          hb.not_mem (by decide)⟩
      have hpath : before ++ (w ++ b ++ '.' :: (b' ++ path)) ++ behind =
          before ++ w ++ b ++ '.' :: (b' ++ path ++ behind) := by
        simp only [List.append_assoc, List.cons_append]
      rw [hpath, callee?_append_dot hdot, trim_append_blank hb, trim_blank_append hbefore,
        (Name.trimmed_of_isWord hw).trim_eq, if_pos hw, ih b' hb']

/-! ## Calls -/

/-- A callee ends with its token, before which no word goes on. -/
theorem Dotted.split {token path : List Char} (h : Dotted token path) :
    ∃ before, path = before ++ token ∧
      ∀ c, before.getLast? = some c → Name.continuesWord c = false := by
  induction h with
  | word _ => exact ⟨[], rfl, fun c hc => nomatch hc⟩
  | @dot word b b' path _ _ hb' _ ih =>
    obtain ⟨before, rfl, hlast⟩ := ih
    refine ⟨word ++ b ++ '.' :: (b' ++ before), by simp, fun c hc => ?_⟩
    have hc' : ('.' :: (b' ++ before)).getLast? = some c := by
      rwa [List.getLast?_append_of_ne_nil _ (List.cons_ne_nil _ _)] at hc
    cases hbefore : before.getLast? with
    | some d =>
      have hne : before ≠ [] := by
        rintro rfl
        cases hbefore
      rw [← List.cons_append, List.getLast?_append_of_ne_nil _ hne] at hc'
      exact hlast c hc'
    | none =>
      obtain rfl := List.getLast?_eq_none_iff.mp hbefore
      rw [List.append_nil] at hc'
      rcases List.mem_cons.mp (List.mem_of_getLast? hc') with rfl | hm
      · decide
      · exact Name.not_continuesWord_of_isBlank (hb' c hm)

/-- **The token is the word that the callee ends with.** -/
theorem Dotted.rtakeWhile_eq {token path : List Char} (h : Dotted token path) :
    path.rtakeWhile Name.continuesWord = token := by
  obtain ⟨before, rfl, hlast⟩ := h.split
  have hword := Name.continuesWord_of_isWord h.isWord
  rw [List.rtakeWhile, List.reverse_append,
    List.takeWhile_append_of_pos fun c hc => hword c (List.mem_reverse.mp hc)]
  have hnil : before.reverse.takeWhile Name.continuesWord = [] := by
    cases hr : before.reverse with
    | nil => rfl
    | cons c s =>
      have hc : before.getLast? = some c := by rw [← List.head?_reverse, hr, List.head?_cons]
      exact List.takeWhile_cons_of_neg (by simp [hlast c hc])
  rw [hnil, List.append_nil, List.reverse_reverse]

/-- A callee ends with a word, so no blank is at its end. -/
theorem Dotted.trimEnd_append {token path blanks : List Char} (h : Dotted token path)
    (hblanks : AllBlank blanks) : trimEnd (path ++ blanks) = path := by
  obtain ⟨before, rfl, -⟩ := h.split
  rw [trimEnd_append_blank hblanks]
  refine trimEnd_of_last fun c hc => (Name.trimmed_of_isWord h.isWord).last c ?_
  rwa [List.getLast?_append_of_ne_nil _ (Name.ne_nil_of_isWord h.isWord)] at hc

/-- No parenthesis stands before the one behind a callee. -/
theorem Dotted.not_mem_append {token path blanks : List Char} (h : Dotted token path)
    (hblanks : AllBlank blanks) : '(' ∉ path ++ blanks := by
  rw [List.mem_append, not_or]
  refine ⟨fun hm => ?_, hblanks.not_mem (by decide)⟩
  rcases h.mem_cases _ hm with hc | hc | hc <;> exact absurd hc (by decide)

theorem ofText?_append {path : List Char} (h : '(' ∉ path) (arguments : List Char) :
    ofText? (path ++ '(' :: (arguments ++ [')'])) = (callee? path).map (⟨·, arguments⟩) := by
  simp [ofText?, cut?_append h]

/-- A callee starts with a word. -/
theorem Dotted.exists_cons {token path : List Char} (h : Dotted token path) :
    ∃ c s, path = c :: s ∧ isBlank c = false := by
  have hword : ∀ w t : List Char, Name.isWord w = true →
      ∃ c s, w ++ t = c :: s ∧ isBlank c = false := by
    intro w t hw
    obtain ⟨c, s, rfl⟩ := List.exists_cons_of_ne_nil (Name.ne_nil_of_isWord hw)
    exact ⟨c, s ++ t, rfl, (Name.trimmed_of_isWord hw).head c rfl⟩
  cases h with
  | word h =>
    obtain ⟨c, s, hs, hc⟩ := hword token [] h
    exact ⟨c, s, by rwa [List.append_nil] at hs, hc⟩
  | @dot w b b' path hw =>
    rw [List.append_assoc]
    exact hword w _ hw

theorem IsCall.trimmed {token arguments s : List Char} (h : IsCall token arguments s) :
    Trimmed s := by
  cases h with
  | mk hpath hblanks =>
    obtain ⟨c, t, rfl, hc⟩ := hpath.exists_cons
    refine ⟨fun d hd => ?_, fun d hd => ?_⟩
    · rwa [← Option.some.inj hd]
    · rw [← List.cons_append, ← List.append_assoc, List.getLast?_concat] at hd
      obtain rfl := Option.some.inj hd
      decide

/-- **A trimmed text is read as a call exactly if it is one.** -/
theorem ofText?_eq_some_iff {s token arguments : List Char} (hs : Trimmed s) :
    ofText? s = some ⟨token, arguments⟩ ↔ IsCall token arguments s := by
  constructor
  · intro h
    obtain ⟨path, -, hcallee, rfl⟩ := ofText?_eq_some h
    obtain ⟨before, words, behind, hbefore, hbehind, rfl, hwords⟩ := callee?_eq_some_iff.mp hcallee
    obtain rfl : before = [] := by
      cases before with
      | nil => rfl
      | cons c before =>
        have hc := hs.head c (by simp)
        rw [hbefore c List.mem_cons_self] at hc
        cases hc
    have hcall : IsCall token arguments _ := .mk hwords hbehind
    simpa using hcall
  · rintro (@⟨path, blanks, hpath, hblanks⟩)
    have hcallee : callee? (path ++ blanks) = some token :=
      callee?_eq_some_iff.mpr ⟨[], path, blanks, AllBlank.nil, hblanks, rfl, hpath⟩
    rw [ofText?_append (hpath.not_mem_append hblanks), hcallee]
    rfl

/-- **A trimmed text that is no call is not read as one.** -/
theorem ofText?_eq_none_iff {s : List Char} (hs : Trimmed s) :
    ofText? s = none ↔ ∀ token arguments, ¬ IsCall token arguments s := by
  rw [Option.eq_none_iff_forall_ne_some]
  exact ⟨fun h token arguments hcall => h _ ((ofText?_eq_some_iff hs).mpr hcall),
    fun h call hcall => h _ _ ((ofText?_eq_some_iff hs).mp hcall)⟩

/-- **The token is what the text before the first parenthesis ends with**, blanks apart. -/
theorem IsCall.token_eq {token arguments s : List Char} (h : IsCall token arguments s) :
    ∃ before behind, cut? '(' s = some (before, behind) ∧
      (trimEnd before).rtakeWhile Name.continuesWord = token := by
  cases h with
  | @mk path blanks hpath hblanks =>
    refine ⟨path ++ blanks, arguments ++ [')'], cut?_append (hpath.not_mem_append hblanks) _, ?_⟩
    rw [hpath.trimEnd_append hblanks, hpath.rtakeWhile_eq]

/-- **A text is a call in one way only.** -/
theorem IsCall.unique {token token' arguments arguments' s : List Char}
    (h : IsCall token arguments s) (h' : IsCall token' arguments' s) :
    token' = token ∧ arguments' = arguments := by
  have hread := (ofText?_eq_some_iff h.trimmed).mpr h
  rw [(ofText?_eq_some_iff h.trimmed).mpr h'] at hread
  exact Call.mk.inj (Option.some.inj hread)

end Call

end DartModels
