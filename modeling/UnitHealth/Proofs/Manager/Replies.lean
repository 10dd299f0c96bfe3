import UnitHealth.Manager.Systemctl
import UnitHealth.Proofs.Listing.Rows
import UnitHealth.Proofs.Text.Utf8

/-!
# What replies mean

A reply to the question for the version matters only by its success. A reply to the question for
the units gives units exactly when it lists a text: the program ended with exit code zero, and its
output encodes a text all of whose lines are complete. There are four ways in which it fails to,
and they are the ones of `ListingFails`.

Neither reading looks at the standard error of a program that succeeded, nor at the output of one
that did not.
-/

namespace UnitHealth

/-- The program ended with exit code zero. -/
def Reply.Succeeds (reply : Reply) : Prop :=
  ∃ output, reply = .ok output ∧ output.code = some 0

/-- The program ended with exit code zero, and its output is the listing with the given text. -/
def Reply.Lists (reply : Reply) (text : String) : Prop :=
  ∃ output, reply = .ok output ∧ output.code = some 0 ∧ output.stdout = Text.encode text ∧
    ∀ line ∈ Text.lines text, Listing.Complete line

/-- A host without files whose service manager can be reached and answers the question for the
units as given. -/
def Host.answering (reply : Reply) : Host where
  file _ := .error .notFound
  spawn _ arguments := if arguments = Systemctl.unitsQuestion then reply else .ok ⟨some 0, [], []⟩

/-- The ways in which a reply is no listing. -/
inductive Reply.ListingFails : Reply → Prop where
  /-- The program could not be started. -/
  | spawn (cause : IoError) : ListingFails (.error cause)
  /-- The program ended with anything but exit code zero. -/
  | ending {output : Output} (bad : output.code ≠ some 0) : ListingFails (.ok output)
  /-- The output encodes no text. -/
  | octets {output : Output} (bad : ∀ text, output.stdout ≠ Text.encode text) :
      ListingFails (.ok output)
  /-- Some line of the output is neither blank nor has the mandatory columns. -/
  | line {output : Output} {text line : String} (encoded : output.stdout = Text.encode text)
      (mem : line ∈ Text.lines text) (bad : ¬ Listing.Complete line) : ListingFails (.ok output)

namespace Reply

theorem Lists.complete {reply : Reply} {text : String} (h : reply.Lists text) :
    ∀ line ∈ Text.lines text, Listing.Complete line := by
  obtain ⟨-, -, -, -, complete⟩ := h
  exact complete

theorem Lists.unique {reply : Reply} {text text' : String} (h : reply.Lists text)
    (h' : reply.Lists text') : text = text' := by
  obtain ⟨output, rfl, -, encoded, -⟩ := h
  obtain ⟨output', same, -, encoded', -⟩ := h'
  obtain rfl := Except.ok.inj same
  exact Text.encode_injective (encoded.symm.trans encoded')

theorem Lists.not_listingFails {reply : Reply} {text : String} (h : reply.Lists text) :
    ¬ reply.ListingFails := by
  obtain ⟨output, rfl, code, encoded, complete⟩ := h
  rintro (_ | bad | bad | ⟨encoded', mem, bad⟩)
  · exact bad code
  · exact bad text encoded
  · obtain rfl := Text.encode_injective (encoded.symm.trans encoded')
    exact bad (complete _ mem)

end Reply

namespace Systemctl

variable (program : String) {reply : Reply}

/-- The service manager can be reached exactly when the question for the version succeeds. -/
theorem exists_versionOf_eq_ok_iff :
    (∃ version, versionOf program reply = .ok version) ↔ reply.Succeeds := by
  cases reply with
  | error cause => simp [versionOf, Reply.Succeeds]
  | ok output =>
      by_cases success : output.code = some 0
      · simp [versionOf, Reply.Succeeds, success]
      · simp [versionOf, Reply.Succeeds, success]

theorem exists_versionOf_eq_error_iff :
    (∃ e, versionOf program reply = .error e) ↔ ¬ reply.Succeeds := by
  rw [← exists_versionOf_eq_ok_iff program]
  cases versionOf program reply <;> simp

/-- A reply gives units exactly when it lists a text, and gives those of the text. -/
theorem unitsOf_eq_ok_iff {units : List ManagedUnit} :
    unitsOf program reply = .ok units ↔
      ∃ text, reply.Lists text ∧ Listing.read text = .ok units := by
  constructor
  · intro h
    cases reply with
    | error cause => simp [unitsOf] at h
    | ok output =>
        by_cases success : output.code = some 0
        · rw [unitsOf, if_pos (Output.succeeded_iff.mpr success), unitsOfOutput] at h
          split at h
          · cases h
          · next text decoded =>
            split at h
            · cases h
            · next units' accepted =>
              obtain rfl := Except.ok.inj h
              exact ⟨text, ⟨output, rfl, success, Text.decode?_eq_some_iff.mp decoded,
                (Listing.read_eq_ok_iff.mp accepted).1⟩, accepted⟩
        · rw [unitsOf, if_neg (mt Output.succeeded_iff.mp success)] at h
          cases h
  · rintro ⟨text, ⟨output, rfl, success, encoded, -⟩, accepted⟩
    rw [unitsOf, if_pos (Output.succeeded_iff.mpr success), unitsOfOutput,
      Text.decode?_eq_some_iff.mpr encoded]
    simp [accepted]

/-- A reply gives no units exactly when it fails in one of the four ways. -/
theorem exists_unitsOf_eq_error_iff :
    (∃ e, unitsOf program reply = .error e) ↔ reply.ListingFails := by
  constructor
  · rintro ⟨e, h⟩
    cases reply with
    | error cause => exact .spawn cause
    | ok output =>
        by_cases success : output.code = some 0
        · by_cases encoded : ∃ text, output.stdout = Text.encode text
          · obtain ⟨text, encoded⟩ := encoded
            by_cases complete : ∀ line ∈ Text.lines text, Listing.Complete line
            · have accepted := (unitsOf_eq_ok_iff program).mpr
                ⟨text, ⟨output, rfl, success, encoded, complete⟩,
                  Listing.read_of_complete complete⟩
              rw [h] at accepted
              cases accepted
            · push Not at complete
              obtain ⟨line, mem, bad⟩ := complete
              exact .line encoded mem bad
          · exact .octets (not_exists.mp encoded)
        · exact .ending success
  · intro fails
    cases result : unitsOf program reply with
    | error e => exact ⟨e, rfl⟩
    | ok units =>
        obtain ⟨text, lists, -⟩ := (unitsOf_eq_ok_iff program).mp result
        exact absurd fails lists.not_listingFails

end Systemctl

namespace Manager

variable {host : Host} {client : Systemctl}

/-- To connect is to make of the reply to one question what it means, and to keep the client. -/
theorem result_connect (host : Host) (client : Systemctl) :
    (connect host client).result =
      (Systemctl.versionOf client.program
        (host.spawn client.program (client.arguments ++ Systemctl.versionQuestion))).map
          fun _ => ⟨client⟩ := by
  simp only [connect, Traced.result_bind, Traced.result_invoke, Systemctl.ask]
  cases Systemctl.versionOf client.program
    (host.spawn client.program (client.arguments ++ Systemctl.versionQuestion)) <;> rfl

theorem result_connect_eq_ok_iff {manager : Manager} :
    (connect host client).result = .ok manager ↔
      manager = ⟨client⟩ ∧ ∃ version, Systemctl.versionOf client.program
        (host.spawn client.program (client.arguments ++ Systemctl.versionQuestion)) =
          .ok version := by
  rw [result_connect]
  cases Systemctl.versionOf client.program
    (host.spawn client.program (client.arguments ++ Systemctl.versionQuestion)) <;>
    simp [Except.map, eq_comm]

theorem result_connect_eq_error_iff {e : ConnectError} :
    (connect host client).result = .error e ↔ Systemctl.versionOf client.program
      (host.spawn client.program (client.arguments ++ Systemctl.versionQuestion)) = .error e := by
  rw [result_connect]
  cases Systemctl.versionOf client.program
    (host.spawn client.program (client.arguments ++ Systemctl.versionQuestion)) <;>
    simp [Except.map]

end Manager

end UnitHealth
