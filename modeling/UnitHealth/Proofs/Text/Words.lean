import Mathlib.Data.List.Chain
import Mathlib.Data.List.DropRight
import UnitHealth.Proofs.Text.Split
import UnitHealth.Text.Words

/-!
# Words and folded texts

A word is a sequence of characters that is not empty and has no blank. The words of a text are
words in this sense, and a list of words is read back from its written form. So the reading of
words and the writing with single spaces are inverse to each other on lists of words.

A text is tidy when a space is the only blank in it, when no two spaces stand side by side, and
when it has no space at either end. The main statement is that the tidy texts are exactly those
that folding leaves as they are.
-/

namespace UnitHealth.Text

/-- A sequence of characters that is a word: there is some character, and none is blank. -/
structure IsWord (cs : List Char) : Prop where
  ne_nil : cs ≠ []
  not_blank : ∀ c ∈ cs, isBlank c = false

theorem isWord_iff {cs : List Char} :
    IsWord cs ↔ cs ≠ [] ∧ (cs.all fun c => !isBlank c) = true := by
  simp only [List.all_eq_true, Bool.not_eq_true']
  exact ⟨fun h => ⟨h.ne_nil, h.not_blank⟩, fun h => ⟨h.1, h.2⟩⟩

instance : DecidablePred IsWord :=
  fun _ => decidable_of_iff _ isWord_iff.symm

theorem isWord_of_mem_wordsOf {cs word : List Char} (h : word ∈ wordsOf cs) : IsWord word := by
  obtain ⟨piece, occupied⟩ := List.mem_filter.mp h
  exact ⟨by simpa using occupied, eq_false_of_mem_splitOnP isBlank cs word piece⟩

theorem isWord_of_mem_words {text word : String} (h : word ∈ words text) : IsWord word.toList := by
  obtain ⟨cs, hcs, rfl⟩ := List.mem_map.mp h
  simpa using isWord_of_mem_wordsOf hcs

/-- A blank ends the word before it and is part of none. -/
theorem wordsOf_append_cons {c : Char} (hc : isBlank c = true) (a b : List Char) :
    wordsOf (a ++ c :: b) = wordsOf a ++ wordsOf b := by
  rw [wordsOf, List.splitOnP_append_cons a b hc, List.filter_append]
  rfl

@[simp] theorem wordsOf_nil : wordsOf [] = [] := rfl

theorem wordsOf_cons_blank {c : Char} (hc : isBlank c = true) (cs : List Char) :
    wordsOf (c :: cs) = wordsOf cs := by
  simpa using wordsOf_append_cons hc [] cs

theorem IsWord.wordsOf_eq {cs : List Char} (h : IsWord cs) : wordsOf cs = [cs] := by
  rw [wordsOf, List.splitOnP_eq_singleton h.not_blank]
  simp [h.ne_nil]

theorem IsWord.words_eq {word : String} (h : IsWord word.toList) : words word = [word] := by
  rw [words, h.wordsOf_eq, List.map_singleton, String.ofList_toList]

/-- A text has no word exactly when all its characters are blank. -/
theorem wordsOf_eq_nil_iff {cs : List Char} :
    wordsOf cs = [] ↔ ∀ c ∈ cs, isBlank c = true := by
  induction cs with
  | nil => simp
  | cons c cs ih =>
      by_cases hc : isBlank c = true
      · rw [wordsOf_cons_blank hc, ih]
        simp [hc]
      · -- The piece that begins with `c` is not empty, so the filter keeps it.
        obtain ⟨first, others, split⟩ :=
          List.exists_cons_of_ne_nil (List.splitOnP_ne_nil isBlank cs)
        simp [wordsOf, List.splitOnP_cons_eq_if_modifyHead, hc, split]

theorem words_eq_nil_iff {text : String} :
    words text = [] ↔ ∀ c ∈ text.toList, isBlank c = true := by
  rw [words, List.map_eq_nil_iff, wordsOf_eq_nil_iff]

theorem wordsOf_append_of_blank {b : List Char} (h : ∀ c ∈ b, isBlank c = true) (a : List Char) :
    wordsOf (a ++ b) = wordsOf a := by
  cases b with
  | nil => rw [List.append_nil]
  | cons c b =>
      obtain ⟨blank, others⟩ := List.forall_mem_cons.mp h
      rw [wordsOf_append_cons blank, wordsOf_eq_nil_iff.mpr others, List.append_nil]

theorem wordsOf_dropWhile_isBlank (cs : List Char) :
    wordsOf (cs.dropWhile isBlank) = wordsOf cs := by
  induction cs with
  | nil => rfl
  | cons c cs ih =>
      by_cases blank : isBlank c = true
      · rw [List.dropWhile_cons_of_pos blank, ih, wordsOf_cons_blank blank]
      · rw [List.dropWhile_cons_of_neg blank]

theorem wordsOf_rdropWhile_isBlank (cs : List Char) :
    wordsOf (cs.rdropWhile isBlank) = wordsOf cs := by
  have blank : ∀ c ∈ cs.rtakeWhile isBlank, isBlank c = true := fun c => List.mem_rtakeWhile_imp
  rw [← wordsOf_append_of_blank blank, List.rdropWhile_append_rtakeWhile]

/-- Trimming a text drops none of its words. -/
@[simp] theorem words_trim (text : String) : words (trim text) = words text := by
  rw [words, words, trim, String.toList_ofList, ← List.rdropWhile, wordsOf_rdropWhile_isBlank,
    wordsOf_dropWhile_isBlank]

/-- A space between two texts keeps their words apart. -/
theorem words_append_space (a b : String) : words (a ++ " " ++ b) = words a ++ words b := by
  simp [words, wordsOf_append_cons isBlank_space]

/-- Words that are written with single spaces are read back. -/
theorem wordsOf_intercalate {ws : List (List Char)} (h : ∀ w ∈ ws, IsWord w) :
    wordsOf ([' '].intercalate ws) = ws := by
  induction ws with
  | nil => rfl
  | cons w ws ih =>
      have first := h w List.mem_cons_self
      have others := ih fun v hv => h v (List.mem_cons_of_mem w hv)
      cases ws with
      | nil => simpa using first.wordsOf_eq
      | cons v ws =>
          rw [List.intercalate_cons_cons, List.append_assoc, List.singleton_append,
            wordsOf_append_cons isBlank_space, first.wordsOf_eq, others, List.singleton_append]

theorem toList_joinWords (ws : List String) :
    (joinWords ws).toList = [' '].intercalate (ws.map String.toList) := by
  simp [joinWords]

theorem words_joinWords {ws : List String} (h : ∀ w ∈ ws, IsWord w.toList) :
    words (joinWords ws) = ws := by
  rw [words, toList_joinWords, wordsOf_intercalate (by simpa using h)]
  simp [Function.comp_def]

@[simp] theorem words_fold (text : String) : words (fold text) = words text :=
  words_joinWords fun _ => isWord_of_mem_words

@[simp] theorem fold_fold (text : String) : fold (fold text) = fold text := by
  rw [fold, words_fold]
  rfl

/-! ## Trimmed texts -/

/-- A text without the blanks at both of its ends. -/
structure Trims (text core : List Char) : Prop where
  split : ∃ front back, text = front ++ core ++ back ∧ (∀ c ∈ front, isBlank c = true) ∧
    ∀ c ∈ back, isBlank c = true
  first : ∀ c, core.head? = some c → isBlank c = false
  last : ∀ c, core.getLast? = some c → isBlank c = false

theorem dropWhile_append_of_first {front core : List Char} (blank : ∀ c ∈ front, isBlank c = true)
    (first : ∀ c, core.head? = some c → isBlank c = false) :
    (front ++ core).dropWhile isBlank = core := by
  rw [List.dropWhile_append_of_pos blank]
  cases core with
  | nil => rfl
  | cons c core => rw [List.dropWhile_cons_of_neg (by simp [first c rfl])]

theorem Trims.trim_eq {text core : String} (h : Trims text.toList core.toList) :
    trim text = core := by
  obtain ⟨front, back, split, hfront, hback⟩ := h.split
  have whole : text.toList.dropWhile isBlank = core.toList ++ back ∨
      core.toList = [] ∧ text.toList.dropWhile isBlank = [] := by
    cases hc : core.toList with
    | nil =>
        have blank := List.forall_mem_append.mpr ⟨hfront, hback⟩
        exact .inr ⟨rfl, List.dropWhile_eq_nil_iff.mpr (by simpa [split, hc] using blank)⟩
    | cons c cs =>
        left
        rw [split, List.append_assoc, hc]
        refine dropWhile_append_of_first hfront fun d hd => h.first d ?_
        simpa [hc] using hd
  obtain whole | ⟨none, whole⟩ := whole
  · rw [trim, whole, List.reverse_append, dropWhile_append_of_first (by simpa using hback)
      (by simpa using h.last), List.reverse_reverse, String.ofList_toList]
  · rw [trim, whole]
    simpa using (String.toList_eq_nil_iff.mp none).symm

/-- Trimming a text is taking away the blanks at both of its ends, and nothing else. -/
theorem trims_iff {text core : String} : Trims text.toList core.toList ↔ trim text = core := by
  refine ⟨Trims.trim_eq, ?_⟩
  rintro rfl
  obtain ⟨rest, hrest⟩ : ∃ rest, rest = text.toList.dropWhile isBlank := ⟨_, rfl⟩
  have trimmed : (trim text).toList = rest.rdropWhile isBlank := by
    rw [trim, String.toList_ofList, hrest, List.rdropWhile]
  rw [trimmed]
  refine ⟨⟨text.toList.takeWhile isBlank, rest.rtakeWhile isBlank, ?_, ?_, ?_⟩, ?_, ?_⟩
  · rw [List.append_assoc, List.rdropWhile_append_rtakeWhile, hrest,
      List.takeWhile_append_dropWhile]
  · exact fun c => List.mem_takeWhile_imp
  · exact fun c => List.mem_rtakeWhile_imp
  · intro c hc
    -- What the end loses does not change where the text begins.
    have front : rest.head? = some c := by
      rw [← List.rdropWhile_append_rtakeWhile (p := isBlank) (l := rest), List.head?_append, hc]
      rfl
    have first := List.head?_dropWhile_not isBlank text.toList
    rwa [← hrest, front] at first
  · intro c hc
    obtain ⟨occupied, rfl⟩ := List.mem_getLast?_eq_getLast hc
    exact Bool.eq_false_iff.mpr (List.rdropWhile_last_not isBlank rest occupied)

/-! ## Tidy texts -/

/-- A sequence of characters in which blanks are only single spaces between other characters. -/
structure Tidy (cs : List Char) : Prop where
  eq_space : ∀ c ∈ cs, isBlank c = true → c = ' '
  apart : cs.IsChain fun a b => a ≠ ' ' ∨ b ≠ ' '
  head_ne : cs.head? ≠ some ' '
  last_ne : cs.getLast? ≠ some ' '

theorem Tidy.nil : Tidy [] := ⟨by simp, .nil, by simp, by simp⟩

theorem IsWord.ne_space {cs : List Char} (h : IsWord cs) {c : Char} (hc : c ∈ cs) : c ≠ ' ' := by
  rintro rfl
  simpa using h.not_blank ' ' hc

theorem IsWord.tidy {cs : List Char} (h : IsWord cs) : Tidy cs where
  eq_space c hc blank := by simp [h.not_blank c hc] at blank
  apart := by
    rw [List.isChain_iff_forall_rel_of_append_cons_cons]
    rintro a b before after rfl
    exact .inl (h.ne_space (by simp))
  head_ne hs := h.ne_space (List.mem_of_mem_head? hs) rfl
  last_ne hs := h.ne_space (List.mem_of_mem_getLast? hs) rfl

/-- Two tidy texts may be set side by side with a space between them. -/
theorem Tidy.append_space {a b : List Char} (ha : Tidy a) (hb : Tidy b) (a_ne : a ≠ [])
    (b_ne : b ≠ []) : Tidy (a ++ ' ' :: b) where
  eq_space c hc blank := by
    rcases List.mem_append.mp hc with hc | hc
    · exact ha.eq_space c hc blank
    · rcases List.mem_cons.mp hc with rfl | hc
      · rfl
      · exact hb.eq_space c hc blank
  apart := by
    refine List.isChain_append.mpr ⟨ha.apart, List.isChain_cons.mpr ⟨?_, hb.apart⟩, ?_⟩
    · rintro c hc
      exact .inr fun hs => hb.head_ne (by simpa [hs] using hc)
    · rintro c hc d -
      exact .inl fun hs => ha.last_ne (by simpa [hs] using hc)
  head_ne := by
    rw [List.head?_append_of_ne_nil _ a_ne]
    exact ha.head_ne
  last_ne := by
    rw [List.getLast?_append_of_ne_nil _ (List.cons_ne_nil _ _), List.getLast?_cons]
    obtain ⟨c, hc⟩ := Option.ne_none_iff_exists'.mp (mt List.getLast?_eq_none_iff.mp b_ne)
    simpa [hc] using hb.last_ne

/-- Words that are written with single spaces make a tidy text. -/
theorem tidy_intercalate {ws : List (List Char)} (h : ∀ w ∈ ws, IsWord w) :
    Tidy ([' '].intercalate ws) := by
  induction ws with
  | nil => exact .nil
  | cons w ws ih =>
      have first := h w List.mem_cons_self
      have others := fun v hv => h v (List.mem_cons_of_mem w hv)
      cases ws with
      | nil => simpa using first.tidy
      | cons v ws =>
          have occupied : [' '].intercalate (v :: ws) ≠ [] := by
            intro empty
            have back := wordsOf_intercalate others
            simp [empty] at back
          rw [List.intercalate_cons_cons, List.append_assoc, List.singleton_append]
          exact first.tidy.append_space (ih others) first.ne_nil occupied

theorem tidy_fold (text : String) : Tidy (fold text).toList := by
  rw [fold, toList_joinWords]
  refine tidy_intercalate fun w hw => ?_
  obtain ⟨word, mem, rfl⟩ := List.mem_map.mp hw
  exact isWord_of_mem_words mem

/-- A tidy text without spaces is empty or a word, and one with a space is a word, the space and
a tidy rest. -/
theorem Tidy.cases {cs : List Char} (h : Tidy cs) :
    cs = [] ∨ IsWord cs ∨
      ∃ w rest, cs = w ++ ' ' :: rest ∧ IsWord w ∧ rest ≠ [] ∧ Tidy rest := by
  by_cases hs : ' ' ∈ cs
  · obtain ⟨w, rest, rfl, fresh⟩ := List.eq_append_cons_of_mem hs
    have w_ne : w ≠ [] := by
      rintro rfl
      exact h.head_ne rfl
    have rest_ne : rest ≠ [] := by
      rintro rfl
      exact h.last_ne (by simp)
    obtain ⟨-, apart, -⟩ := List.isChain_append.mp h.apart
    obtain ⟨next, apart⟩ := List.isChain_cons.mp apart
    refine .inr (.inr ⟨w, rest, rfl, ⟨w_ne, fun c hc => ?_⟩, rest_ne, ?_, apart, ?_, ?_⟩)
    · refine Bool.eq_false_iff.mpr fun blank => fresh ?_
      rwa [← h.eq_space c (by simp [hc]) blank]
    · exact fun c hc => h.eq_space c (by simp [hc])
    · intro first
      simpa using next ' ' (by simp [first])
    · intro last
      refine h.last_ne ?_
      rw [List.getLast?_append_of_ne_nil _ (List.cons_ne_nil _ _), List.getLast?_cons, last]
      rfl
  · rcases eq_or_ne cs [] with rfl | ne
    · exact .inl rfl
    · refine .inr (.inl ⟨ne, fun c hc => Bool.eq_false_iff.mpr fun blank => hs ?_⟩)
      rwa [← h.eq_space c hc blank]

theorem Tidy.intercalate_wordsOf {cs : List Char} (h : Tidy cs) :
    [' '].intercalate (wordsOf cs) = cs := by
  -- The rest after the first word is shorter, and that is all the recursion needs.
  induction hn : cs.length using Nat.strongRecOn generalizing cs with
  | ind n ih =>
      obtain rfl | word | ⟨w, rest, rfl, word, rest_ne, tidy⟩ := h.cases
      · rfl
      · rw [word.wordsOf_eq, List.intercalate_singleton]
      · have back := ih rest.length (by simp [← hn]; omega) tidy rfl
        have occupied : wordsOf rest ≠ [] := by
          intro empty
          rw [empty] at back
          exact rest_ne back.symm
        rw [wordsOf_append_cons isBlank_space, word.wordsOf_eq, List.singleton_append,
          List.intercalate_cons_of_ne_nil occupied, back, List.append_assoc, List.singleton_append]

/-- The tidy texts are those that folding leaves as they are. -/
theorem fold_eq_self_iff {text : String} : fold text = text ↔ Tidy text.toList := by
  constructor
  · intro h
    rw [← h]
    exact tidy_fold text
  · intro h
    apply String.toList_injective
    rw [fold, toList_joinWords, words, List.map_map]
    simpa [Function.comp_def] using h.intercalate_wordsOf

end UnitHealth.Text
