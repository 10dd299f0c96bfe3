import Mathlib.Data.List.Basic
import UnitHealth.FailedServices
import UnitHealth.Proofs.Text.Split

/-!
# Reading a verdict back

A printed line tells its verdict. The word of a status has no colon, so the first colon of the line
ends it, and the message is all that follows. Different verdicts have different lines.

A critical message tells the names of its report as long as none of them has a comma. Nothing is
escaped: the names stand with a comma after each, and they are read back as the pieces between the
commas. A name with a comma comes back in pieces, so the condition cannot be dropped. Repeated names
and names inside other names do no harm.
-/

namespace UnitHealth

namespace Verdict

/-! ## Lines -/

theorem colon_notMem_word (status : Status) : ':' ∉ status.word.toList := by
  cases status <;> decide

theorem word_injective : Function.Injective Status.word := by
  intro a b same
  cases a <;> cases b
  case ok.ok | critical.critical | unknown.unknown => rfl
  all_goals exact absurd same (by decide)

theorem line_injective : Function.Injective line := by
  rintro ⟨status, message⟩ ⟨status', message'⟩ same
  have chars : status.word.toList ++ ':' :: ' ' :: message.toList =
      status'.word.toList ++ ':' :: ' ' :: message'.toList := by
    simpa using congrArg String.toList same
  obtain ⟨words, rest⟩ :=
    Text.eq_of_append_cons_eq_of_first chars (colon_notMem_word status) (colon_notMem_word status')
  obtain rfl := word_injective (String.toList_injective words)
  obtain rfl := String.toList_injective (List.cons.inj rest).2
  rfl

/-! ## Names -/

/-- What stands before the names in the message of a report. -/
def reportLead : String := "Found failed service units: "

/-- Read names back from a payload. The pieces between its commas are the names and an empty piece
at the end, which is dropped. -/
def namesOfPayload? (cs : List Char) : Option (List String) :=
  let pieces := cs.splitOn ','
  if pieces.getLast? = some [] then some (pieces.dropLast.map String.ofList) else none

/-- Read the names of a report back from its message. -/
def namesOfMessage? (message : String) : Option (List String) :=
  (message.toList.dropPrefix? reportLead.toList).bind namesOfPayload?

theorem ofNames_of_ne_nil {names : List String} (ne : names ≠ []) :
    ofNames names = ⟨.critical, reportLead ++ payload names⟩ := by
  obtain ⟨name, others, rfl⟩ := List.exists_cons_of_ne_nil ne
  rfl

/-- A payload has commas between its names and an empty text after them. -/
theorem toList_payload_eq_intercalate (names : List String) :
    (payload names).toList = [','].intercalate (names.map String.toList ++ [[]]) := by
  rw [toList_payload]
  induction names with
  | nil => simp
  | cons name names ih =>
      rw [List.flatMap_cons, ih, List.map_cons, List.cons_append,
        List.intercalate_cons_of_ne_nil (by simp)]

/-- A payload gives its names back exactly when none of them has a comma, and nothing else gives
names. -/
theorem namesOfPayload?_eq_some_iff {cs : List Char} {names : List String} :
    namesOfPayload? cs = some names ↔
      cs = (payload names).toList ∧ ∀ name ∈ names, ',' ∉ name.toList := by
  constructor
  · intro read
    simp only [namesOfPayload?, Option.ite_none_right_eq_some, Option.some.injEq,
      List.getLast?_eq_some_iff] at read
    obtain ⟨⟨pieces, split⟩, rfl⟩ := read
    rw [split, List.dropLast_concat]
    constructor
    · rw [toList_payload_eq_intercalate, List.map_map]
      simp [Function.comp_def, ← split, List.intercalate_splitOn]
    · intro name mem comma
      obtain ⟨piece, among, rfl⟩ := List.mem_map.mp mem
      have whole : piece ∈ cs.splitOn ',' := split ▸ List.mem_append_left _ among
      exact Text.notMem_of_mem_splitOn whole (by simpa using comma)
  · rintro ⟨rfl, fresh⟩
    have split : (payload names).toList.splitOn ',' = names.map String.toList ++ [[]] := by
      rw [toList_payload_eq_intercalate]
      refine List.splitOn_intercalate ',' ?_ (by simp)
      intro piece mem
      rcases List.mem_append.mp mem with mem | last
      · obtain ⟨name, among, rfl⟩ := List.mem_map.mp mem
        exact fresh name among
      · obtain rfl := List.mem_singleton.mp last
        simp
    simp [namesOfPayload?, split, Function.comp_def]

/-- A message gives names exactly when it is that of a report of them and none has a comma. -/
theorem namesOfMessage?_eq_some_iff {message : String} {names : List String} :
    namesOfMessage? message = some names ↔
      message = reportLead ++ payload names ∧ ∀ name ∈ names, ',' ∉ name.toList := by
  simp only [namesOfMessage?, Option.bind_eq_some_iff, List.dropPrefix?_eq_some_iff, beq_iff_eq,
    exists_eq_right, namesOfPayload?_eq_some_iff]
  constructor
  · rintro ⟨rest, split, rfl, fresh⟩
    refine ⟨String.toList_injective ?_, fresh⟩
    rw [split, String.toList_append]
  · rintro ⟨rfl, fresh⟩
    exact ⟨_, String.toList_append, rfl, fresh⟩

/-- The verdict on a report tells its payload, which is empty for a verdict without names. -/
theorem payload_eq_of_ofNames_eq {names names' : List String}
    (same : ofNames names = ofNames names') : payload names = payload names' := by
  cases names with
  | nil => rw [ofNames_status_eq_ok.mp (same ▸ rfl : (ofNames names').status = .ok)]
  | cons name others =>
      have ne : names' ≠ [] := ofNames_status_eq_critical.mp (same ▸ rfl)
      rw [ofNames_of_ne_nil (List.cons_ne_nil name others), ofNames_of_ne_nil ne, mk.injEq] at same
      have messages := congrArg String.toList same.2
      rw [String.toList_append, String.toList_append, List.append_cancel_left_eq] at messages
      exact String.toList_injective messages

theorem ofNames_inj {names names' : List String} (h : ∀ name ∈ names, ',' ∉ name.toList)
    (h' : ∀ name ∈ names', ',' ∉ name.toList) :
    ofNames names = ofNames names' ↔ names = names' := by
  refine ⟨fun same => ?_, fun same => same ▸ rfl⟩
  have payloads := congrArg String.toList (payload_eq_of_ofNames_eq same)
  have read := namesOfPayload?_eq_some_iff.mpr ⟨rfl, h⟩
  have read' := namesOfPayload?_eq_some_iff.mpr ⟨payloads, h'⟩
  exact Option.some.inj (read.symm.trans read')

/-- The line of a verdict tells its status and its message. The message of a critical verdict on
units gives back the names that it reports, in order and with multiplicity, exactly when none of
them has a comma. So two verdicts on units whose reported names have no comma are equal exactly when
the reports are. -/
theorem verdict_of_line :
    (∀ v w : Verdict, v.line = w.line ↔ v = w) ∧
      (∀ policy units, (ofUnits policy units).status = .critical →
        (namesOfMessage? (ofUnits policy units).message = some (failedServices policy units) ↔
          ∀ name ∈ failedServices policy units, ',' ∉ name.toList)) ∧
      ∀ policy policy' units units',
        (∀ name ∈ failedServices policy units, ',' ∉ name.toList) →
        (∀ name ∈ failedServices policy' units', ',' ∉ name.toList) →
          (ofUnits policy units = ofUnits policy' units' ↔
            failedServices policy units = failedServices policy' units') := by
  refine ⟨fun v w => line_injective.eq_iff, fun policy units critical => ?_,
    fun policy policy' units units' plain plain' => ofNames_inj plain plain'⟩
  have ne : failedServices policy units ≠ [] := ofNames_status_eq_critical.mp critical
  rw [ofUnits, ofNames_of_ne_nil ne, namesOfMessage?_eq_some_iff]
  exact and_iff_right rfl

/-- Two failed services of one name are told apart from one, and a name with a comma is not read
back. -/
theorem verdict_of_line_of_twins :
    ∃ twins divided : List ManagedUnit,
      twins = [.ofColumns "a.service" "loaded" "failed" "dead" "",
        .ofColumns "a.service" "masked" "failed" "dead" ""] ∧
      divided = [.ofColumns "a,b.service" "loaded" "failed" "dead" ""] ∧
      namesOfMessage? (ofUnits ⟨false⟩ twins).message = some ["a.service", "a.service"] ∧
      ofUnits ⟨false⟩ twins ≠ ofUnits ⟨true⟩ twins ∧
      namesOfMessage? (ofUnits ⟨false⟩ divided).message ≠ some ["a,b.service"] := by
  obtain ⟨twins, twins_eq⟩ : ∃ units : List ManagedUnit,
      units = [.ofColumns "a.service" "loaded" "failed" "dead" "",
        .ofColumns "a.service" "masked" "failed" "dead" ""] := ⟨_, rfl⟩
  obtain ⟨divided, divided_eq⟩ : ∃ units : List ManagedUnit,
      units = [.ofColumns "a,b.service" "loaded" "failed" "dead" ""] := ⟨_, rfl⟩
  have strict : failedServices ⟨false⟩ twins = ["a.service", "a.service"] := by
    rw [twins_eq]
    decide +kernel
  have lenient : failedServices ⟨true⟩ twins = ["a.service"] := by
    rw [twins_eq]
    decide +kernel
  have whole : failedServices ⟨false⟩ divided = ["a,b.service"] := by
    rw [divided_eq]
    decide +kernel
  obtain ⟨-, read, told⟩ := verdict_of_line
  refine ⟨twins, divided, twins_eq, divided_eq, ?_, ?_, ?_⟩
  · rw [← strict]
    refine (read ⟨false⟩ twins ?_).mpr ?_
    · rw [ofUnits, strict]
      rfl
    · rw [strict]
      decide
  · intro same
    have equal := (told ⟨false⟩ ⟨true⟩ twins twins (by rw [strict]; decide)
      (by rw [lenient]; decide)).mp same
    rw [strict, lenient] at equal
    cases equal
  · intro back
    have plain := (read ⟨false⟩ divided (by rw [ofUnits, whole]; rfl)).mp (by rw [whole, back])
    rw [whole] at plain
    exact absurd (plain _ List.mem_cons_self) (by decide)

end Verdict

end UnitHealth
