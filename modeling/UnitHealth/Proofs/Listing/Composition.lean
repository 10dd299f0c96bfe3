import UnitHealth.Proofs.FailedServices.Printed
import UnitHealth.Proofs.Listing.FirstBad

/-!
# Listings put together

A text of whole lines can stand in front of any other text, and then nothing of either gets lost. If
both are listings, so are they together, with the units and the reports of one after those of the
other. If one is not, both together are rejected as that one is, except that the lines of the first
count for the second.

So a listing is no more than its lines in order. A bad line rejects it wherever it stands, and lines
that change places take their units and names with them, which leaves the status as it was.
-/

namespace UnitHealth

/-! ## Reports put together -/

namespace Verdict

/-- What stands after the lead of a critical message. Another verdict has no payload. -/
def payloadOf (v : Verdict) : String :=
  if v.status = .critical then String.ofList (v.message.toList.drop reportLead.toList.length)
  else ""

theorem payloadOf_ofNames (names : List String) : (ofNames names).payloadOf = payload names := by
  cases names with
  | nil => rfl
  | cons name others =>
      rw [ofNames_of_ne_nil (List.cons_ne_nil name others), payloadOf, if_pos rfl,
        String.toList_append, List.drop_left, String.ofList_toList]

theorem payload_append (names others : List String) :
    payload (names ++ others) = payload names ++ payload others := by
  apply String.toList_injective
  simp only [String.toList_append, toList_payload, List.flatMap_append]

/-- What the verdict on two lists of units together takes from the verdicts on each. -/
structure Joined (policy : Policy) (units others : List ManagedUnit) : Prop where
  names : failedServices policy (units ++ others) =
    failedServices policy units ++ failedServices policy others
  critical : (ofUnits policy (units ++ others)).status = .critical ↔
    (ofUnits policy units).status = .critical ∨ (ofUnits policy others).status = .critical
  payload : (ofUnits policy (units ++ others)).payloadOf =
    (ofUnits policy units).payloadOf ++ (ofUnits policy others).payloadOf

theorem joined (policy : Policy) (units others : List ManagedUnit) :
    Joined policy units others where
  names := failedServices_append policy units others
  critical := by
    simp only [ofUnits, ofNames_status_eq_critical, failedServices_append, ne_eq,
      List.append_eq_nil_iff, not_and_or]
  payload := by
    simp only [ofUnits, payloadOf_ofNames, failedServices_append, payload_append]

/-- Units in another order are reported with the same status. -/
theorem status_eq_of_perm (policy : Policy) {units units' : List ManagedUnit}
    (h : units.Perm units') : (ofUnits policy units').status = (ofUnits policy units).status := by
  have names : (failedServices policy units).Perm (failedServices policy units') :=
    (h.filter policy.reports).map ManagedUnit.name
  rw [ofUnits, ofUnits]
  cases reported : failedServices policy units with
  | nil =>
      rw [reported, List.nil_perm] at names
      rw [names]
  | cons name others =>
      have ne : failedServices policy units' ≠ [] := by
        intro none
        rw [none, List.perm_nil, reported] at names
        cases names
      exact ofNames_status_eq_critical.mpr ne

end Verdict

namespace Listing

/-! ## Two texts -/

section Append

variable {a b : String}

theorem read_append_of_ok {units others : List ManagedUnit} (whole : Text.WholeLines a)
    (first : read a = .ok units) (second : read b = .ok others) :
    read (a ++ b) = .ok (units ++ others) := by
  obtain ⟨complete, rfl⟩ := read_eq_ok_iff.mp first
  obtain ⟨complete', rfl⟩ := read_eq_ok_iff.mp second
  rw [read_eq_ok_iff, Text.lines_append whole, List.forall_mem_append, List.filterMap_append]
  exact ⟨⟨complete, complete'⟩, rfl⟩

/-- What rejects whole lines rejects them with any text after them. -/
theorem read_append_of_error {e : MalformedOutput} (whole : Text.WholeLines a)
    (rejected : read a = .error e) : read (a ++ b) = .error e := by
  obtain ⟨before, line, first, rfl⟩ := read_eq_error_iff.mp rejected
  obtain ⟨after, split⟩ := first.split
  refine read_eq_error_iff.mpr ⟨before, line, first.of_prefix ?_, rfl⟩
  rw [Text.lines_append whole, split]
  exact ⟨after ++ Text.lines b, by simp⟩

/-- What rejects a text rejects it after a listing of whole lines, by a number that counts these. -/
theorem read_append_of_ok_of_error {units : List ManagedUnit} {e : MalformedOutput}
    (whole : Text.WholeLines a) (first : read a = .ok units) (rejected : read b = .error e) :
    ∃ k, e.line = some k ∧
      read (a ++ b) = .error { e with line := some (k + a.toList.count '\n') } := by
  obtain ⟨complete, -⟩ := read_eq_ok_iff.mp first
  obtain ⟨before, line, ⟨⟨after, split⟩, earlier, bad⟩, rfl⟩ := read_eq_error_iff.mp rejected
  refine ⟨before.length + 1, rfl, read_eq_error_iff.mpr ⟨Text.lines a ++ before, line, ?_, ?_⟩⟩
  · rw [Text.lines_append whole, split]
    exact ⟨⟨after, by simp⟩, List.forall_mem_append.mpr ⟨complete, earlier⟩, bad⟩
  · have number : before.length + 1 + a.toList.count '\n' =
        (Text.lines a ++ before).length + 1 := by
      rw [List.length_append, Text.length_lines whole]
      omega
    rw [number]
    rfl

end Append

/-! ## Many texts -/

/-- The units of a text, which are meant for a listing only. -/
def unitsOf (text : String) : List ManagedUnit :=
  (Text.lines text).filterMap unitOf?

theorem read_eq_ok_unitsOf_iff {text : String} :
    read text = .ok (unitsOf text) ↔ ∀ line ∈ Text.lines text, Complete line := by
  rw [read_eq_ok_iff]
  exact and_iff_left rfl

/-- Parts of whole lines with a text after them are a listing exactly when each of them is. -/
theorem read_join_append_eq_ok_iff {parts : List String} (whole : ∀ p ∈ parts, Text.WholeLines p)
    {rest : String} {units : List ManagedUnit} :
    read (String.join parts ++ rest) = .ok units ↔
      ((∀ p ∈ parts, read p = .ok (unitsOf p)) ∧ read rest = .ok (unitsOf rest)) ∧
        units = parts.flatMap unitsOf ++ unitsOf rest := by
  have lines : Text.lines (String.join parts ++ rest) =
      parts.flatMap Text.lines ++ Text.lines rest := by
    induction parts with
    | nil => simp
    | cons p parts ih =>
        obtain ⟨first, others⟩ := List.forall_mem_cons.mp whole
        rw [String.join_cons, String.append_assoc, Text.lines_append first, ih others,
          List.flatMap_cons, List.append_assoc]
  simp only [read_eq_ok_unitsOf_iff]
  rw [read_eq_ok_iff, lines, List.forall_mem_append, List.forall_mem_flatMap,
    List.filterMap_append, List.filterMap_flatMap]
  rfl

/-- Some units come part by part, and so do their reports. -/
structure PartByPart (parts : List String) (unitsOf : String → List ManagedUnit)
    (last units : List ManagedUnit) : Prop where
  units_eq : units = parts.flatMap unitsOf ++ last
  names : ∀ policy, failedServices policy units =
    parts.flatMap (fun p => failedServices policy (unitsOf p)) ++ failedServices policy last

theorem partByPart (parts : List String) (unitsOf : String → List ManagedUnit)
    (last : List ManagedUnit) :
    PartByPart parts unitsOf last (parts.flatMap unitsOf ++ last) where
  units_eq := rfl
  names policy := by
    rw [failedServices_append, List.append_cancel_right_eq]
    induction parts with
    | nil => rfl
    | cons p parts ih => rw [List.flatMap_cons, List.flatMap_cons, failedServices_append, ih]

/-- Listings compose. Whole lines with any text after them have the units, reports and payloads of
both, in order, where both are listings, and are rejected as the first that is not, by a number that
counts the lines of the other before it. So a bad line anywhere rejects a text, and parts of whole
lines, such as single lines, that change places take their units and names with them and leave the
status and the exit code as they are. -/
theorem listings_compose :
    (∀ a b, Text.WholeLines a →
      (∀ units others, read a = .ok units → read b = .ok others →
        read (a ++ b) = .ok (units ++ others) ∧ ∀ policy, Verdict.Joined policy units others) ∧
      (∀ e, read a = .error e → read (a ++ b) = .error e) ∧
      ∀ units e, read a = .ok units → read b = .error e →
        ∃ k, e.line = some k ∧
          read (a ++ b) = .error { e with line := some (k + a.toList.count '\n') }) ∧
    (∀ text, (∃ line ∈ Text.lines text, ¬ Complete line) → ∃ e, read text = .error e) ∧
    ∀ parts parts' rest units, (∀ p ∈ parts, Text.WholeLines p) → parts.Perm parts' →
      read (String.join parts ++ rest) = .ok units →
        ∃ unitsOf last units', (∀ p ∈ parts, read p = .ok (unitsOf p)) ∧ read rest = .ok last ∧
          PartByPart parts unitsOf last units ∧
          read (String.join parts' ++ rest) = .ok units' ∧ PartByPart parts' unitsOf last units' ∧
          ∀ policy,
            (Verdict.ofUnits policy units').status = (Verdict.ofUnits policy units).status ∧
            (Verdict.ofUnits policy units').exitCode = (Verdict.ofUnits policy units).exitCode := by
  refine ⟨fun a b whole => ⟨?_, ?_, ?_⟩, fun text => exists_read_eq_error_iff.mpr, ?_⟩
  · intro units others first second
    exact ⟨read_append_of_ok whole first second,
      fun policy => Verdict.joined policy units others⟩
  · exact fun e => read_append_of_error whole
  · exact fun units e => read_append_of_ok_of_error whole
  · intro parts parts' rest units whole perm accepted
    obtain ⟨⟨each, last⟩, rfl⟩ := (read_join_append_eq_ok_iff whole).mp accepted
    have whole' : ∀ p ∈ parts', Text.WholeLines p := fun p mem => whole p (perm.mem_iff.mpr mem)
    have each' : ∀ p ∈ parts', read p = .ok (unitsOf p) := fun p mem =>
      each p (perm.mem_iff.mpr mem)
    have accepted' := (read_join_append_eq_ok_iff whole').mpr ⟨⟨each', last⟩, rfl⟩
    have moved := (perm.flatMap_right unitsOf).append_right (unitsOf rest)
    refine ⟨unitsOf, unitsOf rest, _, each, last, partByPart parts unitsOf _, accepted',
      partByPart parts' unitsOf _, fun policy => ?_⟩
    have status := Verdict.status_eq_of_perm policy moved
    exact ⟨status, congrArg Status.exitCode status⟩

/-- A short line is the third of a text when two lines come before it, one of them blank. Two failed
services that change places are reported in their new order. -/
theorem listings_compose_of_swap :
    ∃ a b : String, ∃ units units' : List ManagedUnit,
      a = "a.service loaded failed dead\r\n\n" ∧ b = "● b.service loaded failed dead\n" ∧
      read (a ++ "c.service x") = .error ⟨query, .missingColumn 2, some 3, "c.service x"⟩ ∧
      read (a ++ b) = .ok units ∧ read (b ++ a) = .ok units' ∧
      failedServices ⟨false⟩ units = ["a.service", "b.service"] ∧
      failedServices ⟨false⟩ units' = ["b.service", "a.service"] ∧
      (Verdict.ofUnits ⟨false⟩ units').status = .critical := by
  obtain ⟨a, a_eq⟩ : ∃ a, a = "a.service loaded failed dead\r\n\n" := ⟨_, rfl⟩
  obtain ⟨b, b_eq⟩ : ∃ b, b = "● b.service loaded failed dead\n" := ⟨_, rfl⟩
  have whole : ∀ p ∈ [a, b], Text.WholeLines p := by
    rw [a_eq, b_eq]
    decide +kernel
  have first : read a = .ok [.ofColumns "a.service" "loaded" "failed" "dead" ""] := by
    rw [a_eq]
    decide +kernel
  have second : read b = .ok [.ofColumns "b.service" "loaded" "failed" "dead" ""] := by
    rw [b_eq]
    decide +kernel
  have short : read "c.service x" = .error ⟨query, .missingColumn 2, some 1, "c.service x"⟩ := by
    decide +kernel
  obtain ⟨compose, -, reorder⟩ := listings_compose
  obtain ⟨both, joined⟩ := (compose a b (whole a (by simp))).1 _ _ first second
  obtain ⟨k, number, rejected⟩ := (compose a "c.service x" (whole a (by simp))).2.2 _ _ first short
  obtain rfl := Option.some.inj number
  have lineFeeds : a.toList.count '\n' = 2 := by
    rw [a_eq]
    decide +kernel
  rw [lineFeeds] at rejected
  obtain ⟨unitsOf, last, units', each, none, -, swapped, partwise, same⟩ :=
    reorder [a, b] [b, a] "" _ whole (.swap b a []) (by simpa [String.join_cons] using both)
  obtain rfl := Except.ok.inj (none.symm.trans read_empty)
  have names := partwise.names ⟨false⟩
  rw [List.flatMap_cons, List.flatMap_singleton,
    ← Except.ok.inj (first.symm.trans (each a (by simp))),
    ← Except.ok.inj (second.symm.trans (each b (by simp)))] at names
  refine ⟨a, b, _, units', a_eq, b_eq, rejected, both, by simpa [String.join_cons] using swapped,
    ?_, names.trans ?_, (same ⟨false⟩).1.trans ?_⟩
  · decide +kernel
  · decide +kernel
  · exact (joined ⟨false⟩).critical.mpr (.inl (by decide +kernel))

end Listing

end UnitHealth
