import Mathlib.Data.List.Chain
import UnitHealth.Proofs.Text.Digits
import UnitHealth.Proofs.Text.Split
import UnitHealth.Text.Quoted

/-!
# Reading quoted text back

Inside quotes a character has one of three forms: a backslash and a letter, itself, or a backslash
and its code point in braces. No form begins another one, so the written form of a text is taken
apart in one way only, and different texts are quoted differently. All characters of a quotation
show as themselves, whatever the text is.

A double quote stands inside the quotation only after a backslash. The last double quote after a
space therefore opens the quotation at the end of a line, even when what stands before it, or the
quoted text, is made to look like one.
-/

namespace UnitHealth.Text

/-! ## Forms -/

/-- The characters that are written as a backslash and a letter, each with its letter. -/
def shortForms : List (Char × Char) :=
  [('\t', 't'), ('\n', 'n'), ('\r', 'r'), ('\x00', '0'), ('"', '"'), ('\\', '\\')]

/-- What a character may be written as inside quotes. -/
inductive Form : Char → List Char → Prop where
  | short {c letter : Char} (listed : (c, letter) ∈ shortForms) : Form c ['\\', letter]
  | plain {c : Char} (printable : isPrintable c = true) (ne_quote : c ≠ '"') (ne_slash : c ≠ '\\') :
    Form c [c]
  | numbered (c : Char) : Form c (['\\', 'u', '\x7b'] ++ hexDigits c ++ ['\x7d'])

theorem form_escape (c : Char) : Form c (escape c) := by
  rw [escape]
  split_ifs with tab feed ret nul quoted printable
  · exact .short (by simp [shortForms, tab])
  · exact .short (by simp [shortForms, feed])
  · exact .short (by simp [shortForms, ret])
  · exact .short (by simp [shortForms, nul])
  · rcases quoted with rfl | rfl
    · exact .short (by simp [shortForms])
    · exact .short (by simp [shortForms])
  · rw [not_or] at quoted
    exact .plain printable quoted.1 quoted.2
  · exact .numbered c

/-- A letter stands for one character only. -/
theorem eq_of_mem_shortForms : ∀ p ∈ shortForms, ∀ q ∈ shortForms, p.2 = q.2 → p.1 = q.1 := by
  decide

theorem ne_u_of_mem_shortForms : ∀ p ∈ shortForms, p.2 ≠ 'u' := by
  decide

theorem exists_of_mem_hexDigits {c x : Char} (mem : x ∈ hexDigits c) :
    ∃ d < 16, Nat.digitChar d = x :=
  exists_digitChar_of_mem_toDigits (by decide) c.toNat mem

theorem notMem_hexDigits {x : Char} (other : ∀ d < 16, Nat.digitChar d ≠ x) (c : Char) :
    x ∉ hexDigits c := by
  intro mem
  obtain ⟨d, small, same⟩ := exists_of_mem_hexDigits mem
  exact other d small same

theorem hexDigits_injective : Function.Injective hexDigits := by
  intro c d same
  exact Char.toNat_inj.mp (toDigits_inj (by decide) (by decide) c.toNat d.toNat same)

/-- No form of a character begins a form of another one. -/
theorem Form.append_inj {c d : Char} {w v a b : List Char} (hc : Form c w) (hd : Form d v)
    (same : w ++ a = v ++ b) : c = d ∧ a = b := by
  cases hc with
  | short listed =>
      cases hd with
      | short listed' =>
          obtain ⟨letters, rest⟩ : _ ∧ a = b := by simpa using same
          exact ⟨eq_of_mem_shortForms _ listed _ listed' letters, rest⟩
      | plain _ _ ne_slash =>
          obtain ⟨slash, -⟩ := List.cons.inj same
          exact absurd slash.symm ne_slash
      | numbered =>
          obtain ⟨letter, -⟩ := List.cons.inj (List.cons.inj same).2
          exact absurd letter (ne_u_of_mem_shortForms _ listed)
  | plain _ _ ne_slash =>
      cases hd with
      | short =>
          obtain ⟨slash, -⟩ := List.cons.inj same
          exact absurd slash ne_slash
      | plain => simpa using same
      | numbered =>
          obtain ⟨slash, -⟩ := List.cons.inj same
          exact absurd slash ne_slash
  | numbered =>
      cases hd with
      | short listed =>
          obtain ⟨letter, -⟩ := List.cons.inj (List.cons.inj same).2
          exact absurd letter.symm (ne_u_of_mem_shortForms _ listed)
      | plain _ _ ne_slash =>
          obtain ⟨slash, -⟩ := List.cons.inj same
          exact absurd slash.symm ne_slash
      | numbered =>
          -- The brace after the digits ends them, however many there are.
          have numbers : hexDigits c ++ '\x7d' :: a = hexDigits d ++ '\x7d' :: b := by
            simpa using same
          obtain ⟨digits, rest⟩ := eq_of_append_cons_eq_of_first numbers
            (notMem_hexDigits (by decide) c) (notMem_hexDigits (by decide) d)
          exact ⟨hexDigits_injective digits, rest⟩

theorem Form.ne_nil {c : Char} {w : List Char} (h : Form c w) : w ≠ [] := by
  cases h <;> simp

/-! ## Texts -/

/-- The written form of a text tells the text. -/
theorem flatMap_escape_injective :
    Function.Injective fun cs : List Char => cs.flatMap escape := by
  intro cs
  induction cs with
  | nil =>
      intro ds same
      cases ds with
      | nil => rfl
      | cons d ds => simp [(form_escape d).ne_nil] at same
  | cons c cs ih =>
      intro ds same
      cases ds with
      | nil => simp [(form_escape c).ne_nil] at same
      | cons d ds =>
          simp only [List.flatMap_cons] at same
          obtain ⟨rfl, rest⟩ := (form_escape c).append_inj (form_escape d) same
          rw [ih rest]

theorem quote_injective : Function.Injective quote := by
  intro s t same
  have chars : s.toList.flatMap escape = t.toList.flatMap escape := by
    simpa using congrArg String.toList same
  exact String.toList_injective (flatMap_escape_injective chars)

/-! ## Characters of a quotation -/

theorem Form.isPrintable_of_mem {c x : Char} {w : List Char} (h : Form c w) (mem : x ∈ w) :
    isPrintable x = true := by
  cases h with
  | short listed =>
      have letters : ∀ p ∈ shortForms, isPrintable p.2 = true := by decide
      rcases List.mem_pair.mp mem with rfl | rfl
      · decide
      · exact letters _ listed
  | plain printable => rwa [List.mem_singleton.mp mem]
  | numbered =>
      have digits : ∀ d < 16, isPrintable (Nat.digitChar d) = true := by decide
      simp only [List.mem_append, List.mem_cons, List.not_mem_nil, or_false] at mem
      rcases mem with ((rfl | rfl | rfl) | mem) | rfl
      · decide
      · decide
      · decide
      · obtain ⟨d, small, rfl⟩ := exists_of_mem_hexDigits mem
        exact digits d small
      · decide

/-- All characters of a quotation show as themselves. -/
theorem isPrintable_of_mem_quote {text : String} {x : Char} (mem : x ∈ (quote text).toList) :
    isPrintable x = true := by
  simp only [toList_quote, List.mem_append, List.mem_singleton, List.mem_flatMap] at mem
  rcases mem with (rfl | ⟨c, -, mem⟩) | rfl
  · decide
  · exact (form_escape c).isPrintable_of_mem mem
  · decide

/-! ## The opening quote -/

/-- Each double quote, unless it is the first character, stands right after a backslash. -/
def Guarded : List Char → Prop :=
  List.IsChain fun before c => c = '"' → before = '\\'

/-- Characters without a double quote keep guarded what follows them. -/
theorem guarded_append {w rest : List Char} (fresh : '"' ∉ w)
    (guarded : ∀ before, Guarded (before :: rest)) : ∀ before, Guarded (before :: (w ++ rest)) := by
  induction w with
  | nil => exact guarded
  | cons c w ih =>
      intro before
      rw [List.mem_cons, not_or] at fresh
      exact .cons_cons (fun same => absurd same.symm fresh.1) (ih fresh.2 c)

theorem Form.guarded {c : Char} {w rest : List Char} (h : Form c w)
    (guarded : ∀ before, Guarded (before :: rest)) : ∀ before, Guarded (before :: (w ++ rest)) := by
  cases h with
  | @short letter listed =>
      intro before
      exact .cons_cons (by simp) (.cons_cons (by simp) (guarded letter))
  | plain _ ne_quote => exact guarded_append (by simpa using ne_quote.symm) guarded
  | numbered =>
      have unquoted : '"' ∉ hexDigits c := notMem_hexDigits (by decide) c
      exact guarded_append (by simpa using unquoted) guarded

theorem guarded_flatMap_escape (cs : List Char) :
    ∀ before, Guarded (before :: cs.flatMap escape) := by
  induction cs with
  | nil => exact fun before => .singleton before
  | cons c cs ih => exact (form_escape c).guarded ih

/-- Inside a quotation no double quote stands right after a space. -/
theorem not_infix_flatMap_escape (cs : List Char) : ¬ [' ', '"'] <:+: cs.flatMap escape := by
  intro within
  have guarded : Guarded [' ', '"'] :=
    List.IsChain.infix (guarded_flatMap_escape cs ' ') (within.trans (List.suffix_cons _ _).isInfix)
  exact absurd guarded (by simp [Guarded])

/-- A quotation after a space at the end of a text is told from what stands before it. -/
theorem eq_of_append_space_quote_eq {a b : List Char} {s t : String}
    (same : a ++ ' ' :: (quote s).toList = b ++ ' ' :: (quote t).toList) : a = b ∧ s = t := by
  have closed : (a ++ ' ' :: '"' :: s.toList.flatMap escape) ++ ['"'] =
      (b ++ ' ' :: '"' :: t.toList.flatMap escape) ++ ['"'] := by
    simpa using same
  obtain ⟨rfl, -⟩ := eq_of_append_cons_cons_eq_of_last (by decide)
    (List.append_cancel_right closed) (not_infix_flatMap_escape s.toList)
    (not_infix_flatMap_escape t.toList)
  rw [List.append_cancel_left_eq, List.cons_inj_right] at same
  exact ⟨rfl, quote_injective (String.toList_injective same)⟩

end UnitHealth.Text
