import UnitHealth.Check.Program
import UnitHealth.Proofs.Check.Course
import UnitHealth.Proofs.Text.Lines

/-!
# The printed line

A run prints one line and nothing else: the check, the status and a message, with one line feed
after them. The line is tidy whatever the configuration file holds and whatever the client program
prints, so no octet of another program reaches the output as a line break or a stray blank.

The messages are tidy for different reasons. The names in a report are words, because a listing is
read by its words, and names with a comma after each are a word again. A fault is folded, and has
some word since its chain has at least two texts. The other messages are fixed.
-/

namespace UnitHealth

/-! ## Lines and leads -/

namespace Text

theorem Tidy.lines_eq {text : String} (h : Tidy text.toList) : lines (text ++ "\n") = [text] :=
  lines_append_newline h.eq_space

/-- A lead that ends in a space is tidy before a tidy text, when it is tidy without the space. -/
theorem tidy_lead {lead first rest : String} (split : lead = first ++ " ")
    (hf : Tidy first.toList) (hr : Tidy rest.toList) (first_ne : first ≠ "")
    (rest_ne : rest ≠ "") : Tidy (lead ++ rest).toList := by
  rw [split, String.toList_append, String.toList_append, List.append_assoc]
  exact hf.append_space hr (by simpa using first_ne) (by simpa using rest_ne)

end Text

/-! ## Messages -/

namespace Verdict

/-- Words that are each followed by a comma make a word. -/
theorem isWord_payload {names : List String} (h : ∀ name ∈ names, Text.IsWord name.toList)
    (ne : names ≠ []) : Text.IsWord (payload names).toList where
  ne_nil := by
    obtain ⟨name, others, rfl⟩ := List.exists_cons_of_ne_nil ne
    simp [payload]
  not_blank c hc := by
    simp only [payload, String.toList_join, List.mem_flatMap, List.mem_map,
      exists_exists_and_eq_and, String.toList_append, List.mem_append] at hc
    obtain ⟨name, mem, hc | hc⟩ := hc
    · exact (h name mem).not_blank c hc
    · obtain rfl : c = ',' := by simpa using hc
      rfl

/-- A line with a tidy message that is not empty is tidy. -/
theorem tidy_line {v : Verdict} (h : Text.Tidy v.message.toList) (ne : v.message ≠ "") :
    Text.Tidy v.line.toList := by
  obtain ⟨status, message⟩ := v
  have check : Text.IsWord "CheckFailedUnits".toList := by decide +kernel
  have word : Text.IsWord (status.word ++ ":").toList := by
    cases status <;> decide +kernel
  have summary : Text.Tidy (status.word ++ ": " ++ message).toList :=
    Text.tidy_lead (by rw [String.append_assoc]; rfl) word.tidy h (by simp) ne
  rw [line_mk]
  exact Text.tidy_lead rfl check.tidy summary (by simp) (by simp [ne])

end Verdict

/-- A fault with a context has some word, since a colon stands after the context. -/
theorem Fault.fold_joined_ne_empty (context : String) (f : Fault) :
    Text.fold (f.within context).joined ≠ "" := by
  intro empty
  have none : Text.words (f.within context).joined = [] := by
    rw [← Text.words_fold, empty, Text.words_empty]
  have colon : ':' ∈ (f.within context).joined.toList := by
    rw [joined, chain_within, chain]
    simp [String.toList_intercalate]
  exact absurd (Text.words_eq_nil_iff.mp none ':' colon) (by decide)

theorem Fault.tidy_line_verdict (context : String) (f : Fault) :
    Text.Tidy (f.within context).verdict.line.toList := by
  have lead : Text.Tidy "Check failed to run:".toList :=
    Text.fold_eq_self_iff.mp (by decide +kernel)
  refine Verdict.tidy_line (Text.tidy_lead rfl lead (Text.tidy_fold _) (by simp) ?_) ?_
  · exact fold_joined_ne_empty context f
  · simp [verdict]

theorem Verdict.tidy_line_ofUnits {text : String} {units : List ManagedUnit}
    (accepted : Listing.read text = .ok units) (policy : Policy) :
    Text.Tidy (Verdict.ofUnits policy units).line.toList := by
  rw [ofUnits, Listing.failedServices_of_read accepted policy]
  cases names : Listing.countedNames policy text with
  | nil => exact tidy_line (Text.fold_eq_self_iff.mp (by decide +kernel)) (by simp)
  | cons name others =>
      have words : ∀ n ∈ name :: others, Text.IsWord n.toList := by
        rw [← names]
        exact fun n mem => Listing.isWord_of_mem_countedNames mem
      have payload := isWord_payload words (List.cons_ne_nil _ _)
      have lead : Text.Tidy "Found failed service units:".toList :=
        Text.fold_eq_self_iff.mp (by decide +kernel)
      refine tidy_line (Text.tidy_lead rfl lead payload.tidy (by simp) ?_) (by simp [ofNames])
      exact fun empty => payload.ne_nil (by simp [empty])

/-! ## The line of a run -/

theorem Check.Course.tidy_line {host : Host} {line : CommandLine}
    {outcome : Except Fault Verdict} (h : Check.Course host line outcome) :
    Text.Tidy (Transcript.verdictOf outcome).line.toList := by
  cases h with
  | unsettled failed => exact Fault.tidy_line_verdict _ _
  | unreachable settled failed => exact Text.fold_eq_self_iff.mp (by decide +kernel)
  | unlisted settled reached failed => exact Fault.tidy_line_verdict _ _
  | @judged s version units settled reached listed =>
      obtain ⟨text, -, accepted⟩ := (Systemctl.unitsOf_eq_ok_iff s.systemctl).mp listed
      exact Verdict.tidy_line_ofUnits accepted s.policy

/-- A run that the arguments ask for prints the check, a status and a message in one line, with a
line feed after it. In this line a space is the only blank, no two spaces stand side by side, and
there is none at either end, so folding the line changes nothing. -/
theorem stdout_eq_tidy_line {arguments : List String} {line : CommandLine} (host : Host)
    (logSetting : Option String) (asked : CommandLine.parse arguments = .ok line) :
    ∃ (status : Status) (message printed : String),
      (Transcript.ofArguments host arguments logSetting).stdout = printed ++ "\n" ∧
      printed = "CheckFailedUnits " ++ status.word ++ ": " ++ message ∧
      Text.lines (printed ++ "\n") = [printed] ∧
      Text.Tidy printed.toList ∧ Text.fold printed = printed := by
  have tidy := (Check.course_run host line).tidy_line
  have printed : (Transcript.ofArguments host arguments logSetting).stdout =
      (Transcript.verdictOf (Check.run host line).result).line ++ "\n" := by
    rw [Transcript.ofArguments, asked]
    rfl
  generalize Transcript.verdictOf (Check.run host line).result = verdict at tidy printed
  obtain ⟨status, message⟩ := verdict
  refine ⟨status, message, _, printed, ?_, tidy.lines_eq, tidy, Text.fold_eq_self_iff.mpr tidy⟩
  rw [Verdict.line_mk]
  simp only [← String.append_assoc]

/-- A complaint over several lines is printed on one line. -/
theorem stdout_eq_tidy_line_of_complaint :
    ∃ host : Host,
      host = .answering (.ok ⟨some 1, [], Text.encode "a\r\n\x85\n b"⟩) ∧
      (Transcript.ofArguments host [] none).stdout =
        "CheckFailedUnits CRITICAL: Check failed to run: Failed to enumerate systemd units: " ++
          "unit listing failed (exit Some(1)): a b\n" ∧
      ∃ printed, (Transcript.ofArguments host [] none).stdout = printed ++ "\n" ∧
        Text.Tidy printed.toList := by
  refine ⟨_, rfl, by decide +kernel, ?_⟩
  obtain ⟨-, -, printed, out, -, -, tidy, -⟩ := stdout_eq_tidy_line
    (.answering (.ok ⟨some 1, [], Text.encode "a\r\n\x85\n b"⟩)) none CommandLine.parse_nil
  exact ⟨printed, out, tidy⟩

end UnitHealth
