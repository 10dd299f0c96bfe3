import UnitHealth.Listing.Malformed
import UnitHealth.Proofs.Text.Quoted

/-!
# Reading a report on malformed output back

The wording of a report tells the whole report. The last double quote that stands after a space
opens the quotation of the text at fault. A colon stands before it, and the colon before that one
ends the name of the query. What is between these colons says what is wrong and where: a numeral
ends before the words that point at a line, since they begin with a space. So a text at fault that is
made to look like the end of a report, or like the words that point at a line, does not make the
report look like another one.

All that the wording adds to the name of the query shows as itself. In particular it adds no end of
a line.
-/

namespace UnitHealth

namespace MalformedOutput

/-! ## What is wrong, and where -/

theorem toList_missingColumn (present : Nat) :
    (MalformedReason.missingColumn present).message.toList =
      "missing column ".toList ++ Nat.toDigits 10 present := by
  have wording : (MalformedReason.missingColumn present).message =
      "missing column " ++ toString present := rfl
  rw [wording, String.toList_append, Nat.toString_eq_repr, Nat.toList_repr]

theorem toList_place_some (number : Nat) :
    (place (some number)).toList = " at line ".toList ++ Nat.toDigits 10 number := by
  have wording : place (some number) = " at line " ++ toString number := rfl
  rw [wording, String.toList_append, Nat.toString_eq_repr, Nat.toList_repr]

/-- What a report says between the name of the query and the text at fault. -/
def account (reason : MalformedReason) (line : Option Nat) : List Char :=
  reason.message.toList ++ (place line).toList

theorem toList_message (e : MalformedOutput) :
    e.message.toList =
      (e.query.toList ++ ':' :: (' ' :: account e.reason e.line) ++ [':']) ++
        ' ' :: (Text.quote e.raw).toList := by
  simp [message, account]

theorem place_injective : Function.Injective place := by
  intro line line' same
  have chars := congrArg String.toList same
  cases line with
  | none =>
      cases line' with
      | none => rfl
      | some number' =>
          rw [toList_place_some] at chars
          simp [place] at chars
  | some number =>
      cases line' with
      | none =>
          rw [toList_place_some] at chars
          simp [place] at chars
      | some number' =>
          rw [toList_place_some, toList_place_some, List.append_cancel_left_eq] at chars
          rw [Text.toDigits_inj (by decide) (by decide) number number' chars]

/-- The words that point at a line do not go on with a numeral before them. -/
theorem place_ends_numeral (line : Option Nat) :
    ∀ c ∈ (place line).toList.head?, c.isDigit = false := by
  cases line with
  | none => simp [place]
  | some number =>
      rw [toList_place_some]
      simp

theorem account_inj {reason reason' : MalformedReason} {line line' : Option Nat}
    (same : account reason line = account reason' line') : reason = reason' ∧ line = line' := by
  unfold account at same
  cases reason with
  | missingColumn present =>
      cases reason' with
      | missingColumn present' =>
          rw [toList_missingColumn, toList_missingColumn, List.append_assoc, List.append_assoc,
            List.append_cancel_left_eq] at same
          obtain ⟨rfl, places⟩ := Text.eq_of_toDigits_append_eq same
            (place_ends_numeral line) (place_ends_numeral line')
          exact ⟨rfl, place_injective (String.toList_injective places)⟩
      | invalidUtf8 =>
          rw [toList_missingColumn] at same
          simp [MalformedReason.message] at same
  | invalidUtf8 =>
      cases reason' with
      | missingColumn present' =>
          rw [toList_missingColumn] at same
          simp [MalformedReason.message] at same
      | invalidUtf8 =>
          rw [List.append_cancel_left_eq] at same
          exact ⟨rfl, place_injective (String.toList_injective same)⟩

/-- Whether a character shows as itself and is no colon. -/
def isWording (c : Char) : Bool :=
  Text.isPrintable c && c != ':'

theorem all_isWording_account (reason : MalformedReason) (line : Option Nat) :
    (account reason line).all isWording = true := by
  have numeral (n : Nat) : (Nat.toDigits 10 n).all isWording = true := by
    rw [List.all_eq_true]
    intro c mem
    obtain ⟨d, small, rfl⟩ := Text.exists_digitChar_of_mem_toDigits (by decide) n mem
    exact (by decide : ∀ d < 10, isWording (Nat.digitChar d) = true) d small
  rw [account, List.all_append, Bool.and_eq_true]
  constructor
  · cases reason with
    | missingColumn present =>
        rw [toList_missingColumn, List.all_append, numeral present, Bool.and_true]
        decide
    | invalidUtf8 => decide
  · cases line with
    | none => decide
    | some number =>
        rw [toList_place_some, List.all_append, numeral number, Bool.and_true]
        decide

theorem isPrintable_of_mem_account {reason : MalformedReason} {line : Option Nat} {c : Char}
    (mem : c ∈ account reason line) : Text.isPrintable c = true := by
  have wording := List.all_eq_true.mp (all_isWording_account reason line) c mem
  rw [isWording, Bool.and_eq_true] at wording
  exact wording.1

theorem colon_notMem_account (reason : MalformedReason) (line : Option Nat) :
    ':' ∉ account reason line := by
  intro mem
  have wording := List.all_eq_true.mp (all_isWording_account reason line) ':' mem
  exact absurd wording (by decide)

/-! ## The whole report -/

/-- The wording of a report tells the report. -/
theorem message_injective : Function.Injective message := by
  rintro ⟨query, reason, line, raw⟩ ⟨query', reason', line', raw'⟩ same
  have chars := congrArg String.toList same
  rw [toList_message, toList_message] at chars
  obtain ⟨front, rfl⟩ := Text.eq_of_append_space_quote_eq chars
  have colon (reason : MalformedReason) (line : Option Nat) : ':' ∉ ' ' :: account reason line := by
    simpa using colon_notMem_account reason line
  obtain ⟨queries, accounts⟩ := Text.eq_of_append_cons_eq_of_last (List.append_cancel_right front)
    (colon reason line) (colon reason' line')
  obtain rfl := String.toList_injective queries
  obtain ⟨rfl, rfl⟩ := account_inj (List.cons.inj accounts).2
  rfl

/-- A character that does not show as itself stands in the wording only where the name of the query
has it. -/
theorem mem_message_iff_of_hidden (e : MalformedOutput) {c : Char}
    (hidden : Text.isPrintable c = false) : c ∈ e.message.toList ↔ c ∈ e.query.toList := by
  have shown {d : Char} (printable : Text.isPrintable d = true) : c ≠ d := by
    rintro rfl
    rw [hidden] at printable
    cases printable
  have colon : c ≠ ':' := shown (by decide)
  have space : c ≠ ' ' := shown (by decide)
  have account : c ∉ account e.reason e.line :=
    fun mem => shown (isPrintable_of_mem_account mem) rfl
  have quotation : c ∉ (Text.quote e.raw).toList :=
    fun mem => shown (Text.isPrintable_of_mem_quote mem) rfl
  simp [toList_message, colon, space, account, quotation, -Text.toList_quote]

/-- Reports on one query read alike only when they agree on what is wrong, on the line and on the
text at fault, whatever these are. A report on a query whose name has no line feed and no carriage
return has none either. -/
theorem report_of_message :
    (∀ e e' : MalformedOutput, e.query = e'.query →
      (e.message = e'.message ↔
        e.reason = e'.reason ∧ e.line = e'.line ∧ e.raw = e'.raw)) ∧
      ∀ e : MalformedOutput, '\n' ∉ e.query.toList → '\r' ∉ e.query.toList →
        '\n' ∉ e.message.toList ∧ '\r' ∉ e.message.toList := by
  constructor
  · rintro ⟨query, reason, line, raw⟩ ⟨_, reason', line', raw'⟩ rfl
    rw [message_injective.eq_iff, mk.injEq]
    exact and_iff_right rfl
  · intro e feed ret
    rw [e.mem_message_iff_of_hidden (by decide), e.mem_message_iff_of_hidden (by decide)]
    exact ⟨feed, ret⟩

/-- A text at fault that reads like the end of a report on another line, line feed and all, gives a
report of its own, on one line. -/
theorem report_of_message_of_lookalike :
    ∃ blaming lookalike : MalformedOutput,
      blaming = ⟨"systemctl list-units", .missingColumn 2, some 3, "a.service loaded"⟩ ∧
      lookalike = ⟨"systemctl list-units", .missingColumn 2, none,
        " at line 3: \"a.service loaded\"\r\n"⟩ ∧
      blaming.message ≠ lookalike.message ∧
      '\n' ∈ lookalike.raw.toList ∧ '\r' ∈ lookalike.raw.toList ∧
      '\n' ∉ lookalike.message.toList ∧ '\r' ∉ lookalike.message.toList := by
  obtain ⟨told, oneLine⟩ := report_of_message
  refine ⟨_, _, rfl, rfl, ?_, by decide, by decide, oneLine _ (by decide) (by decide)⟩
  intro same
  obtain ⟨-, lines, -⟩ := (told _ _ (by rfl)).mp same
  cases lines

end MalformedOutput

end UnitHealth
