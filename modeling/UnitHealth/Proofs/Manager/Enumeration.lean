import UnitHealth.Proofs.Manager.Replies
import UnitHealth.Proofs.Text.Lossy

/-!
# Enumerations

The reply to the question for the units decides what an enumeration comes to, and of several things
that are wrong with it the first in this order counts: the program could not be started, it ended
with anything but exit code zero, its output is no text, a line of the text is bad. What stands
behind the one that counts is not looked at, except for the complaint of a program that ended badly,
which is quoted.

The main statement compares the enumeration with this order. The texts in the errors are told by the
rules for lossy readings and for trimming, and not by the functions that make them.
-/

namespace UnitHealth

namespace Reply

/-- The text that octets are quoted as: read with a loss, and trimmed. -/
def Quoted (octets : Text.Octets) (text : String) : Prop :=
  ∃ cs, Text.Utf8.Lossy octets cs ∧ Text.Trims cs text.toList

theorem quoted_iff {octets : Text.Octets} {text : String} :
    Quoted octets text ↔ Text.trim (Text.decodeLossy octets) = text := by
  rw [← Text.trims_iff]
  constructor
  · rintro ⟨cs, lossy, trims⟩
    have read : Text.decodeLossy octets = String.ofList cs :=
      Text.lossy_iff.mp (by rwa [String.toList_ofList])
    rwa [read, String.toList_ofList]
  · exact fun trims => ⟨_, Text.lossy_iff.mpr rfl, trims⟩

/-- What an enumeration through a program comes to, by the reply to its question. -/
inductive Enumerates (program : String) :
    Reply → Except EnumerationError (List ManagedUnit) → Prop where
  /-- The program could not be started. -/
  | unstarted (cause : IoError) : Enumerates program (.error cause) (.error (.spawn program cause))
  /-- The program ended with anything but exit code zero, whatever its output is. -/
  | ended {output : Output} {complaint : String} (bad : output.code ≠ some 0)
      (quoted : Quoted output.stderr complaint) :
      Enumerates program (.ok output) (.error (.commandFailed output.code complaint))
  /-- The output encodes no text, whatever its lines are. -/
  | noText {output : Output} {raw : String} (success : output.code = some 0)
      (bad : ∀ text, output.stdout ≠ Text.encode text)
      (lossy : Text.Utf8.Lossy output.stdout raw.toList) :
      Enumerates program (.ok output)
        (.error (.malformed ⟨"systemctl list-units", .invalidUtf8, none, raw⟩))
  /-- The output encodes a text that is no listing. -/
  | noListing {output : Output} {text : String} {e : MalformedOutput}
      (success : output.code = some 0) (encoded : output.stdout = Text.encode text)
      (rejected : Listing.read text = .error e) :
      Enumerates program (.ok output) (.error (.malformed e))
  /-- The output encodes a listing. -/
  | listed {output : Output} {text : String} {units : List ManagedUnit}
      (success : output.code = some 0) (encoded : output.stdout = Text.encode text)
      (accepted : Listing.read text = .ok units) :
      Enumerates program (.ok output) (.ok units)

end Reply

namespace Systemctl

variable {program : String}

/-- What an output comes to when its program succeeded. -/
theorem enumerates_unitsOfOutput {output : Output} (success : output.code = some 0) :
    Reply.Enumerates program (.ok output) (unitsOfOutput output.stdout) := by
  rw [unitsOfOutput]
  cases decoded : Text.decode? output.stdout with
  | none => exact .noText success (Text.decode?_eq_none_iff.mp decoded) (Text.lossy_iff.mpr rfl)
  | some text =>
      have encoded := Text.decode?_eq_some_iff.mp decoded
      cases result : Listing.read text with
      | error e =>
          simp only [result]
          exact .noListing success encoded result
      | ok units =>
          simp only [result]
          exact .listed success encoded result

theorem enumerates_unitsOf (program : String) (reply : Reply) :
    reply.Enumerates program (unitsOf program reply) := by
  cases reply with
  | error cause => exact .unstarted cause
  | ok output =>
      by_cases success : output.code = some 0
      · rw [unitsOf, if_pos (Output.succeeded_iff.mpr success)]
        exact enumerates_unitsOfOutput success
      · rw [unitsOf, if_neg (mt Output.succeeded_iff.mp success)]
        exact .ended success (Reply.quoted_iff.mpr rfl)

theorem unitsOf_eq_of_enumerates {reply : Reply} {r : Except EnumerationError (List ManagedUnit)}
    (h : reply.Enumerates program r) : unitsOf program reply = r := by
  cases h with
  | unstarted cause => rfl
  | ended bad quoted =>
      rw [unitsOf, if_neg (mt Output.succeeded_iff.mp bad), Reply.quoted_iff.mp quoted]
  | noText success bad lossy =>
      rw [unitsOf, if_pos (Output.succeeded_iff.mpr success), unitsOfOutput,
        Text.decode?_eq_none_iff.mpr bad, Text.lossy_iff.mp lossy]
      rfl
  | noListing success encoded rejected =>
      rw [unitsOf, if_pos (Output.succeeded_iff.mpr success), unitsOfOutput,
        Text.decode?_eq_some_iff.mpr encoded]
      simp only [rejected]
  | listed success encoded accepted =>
      rw [unitsOf, if_pos (Output.succeeded_iff.mpr success), unitsOfOutput,
        Text.decode?_eq_some_iff.mpr encoded]
      simp only [accepted]

end Systemctl

/-- The answer of a host to a manager's question for the units. -/
def Manager.unitsReply (host : Host) (manager : Manager) : Reply :=
  host.spawn manager.client.program (manager.client.arguments ++
    ["list-units", "--all", "--full", "--plain", "--no-legend", "--no-pager"])

/-- An enumeration comes to what the reply to its question makes it, by the first thing that is
wrong with the reply, and to nothing else. Octets that are no text reject an output wherever they
stand, also behind a text whose lines are bad. -/
theorem listUnits_iff_enumerates (host : Host) (manager : Manager) :
    (∀ r, (Manager.listUnits host manager).result = r ↔
      (manager.unitsReply host).Enumerates manager.client.program r) ∧
    ∀ text octets stderr, (∀ t, octets ≠ Text.encode t) →
      manager.unitsReply host = .ok ⟨some 0, Text.encode text ++ octets, stderr⟩ →
        (Manager.listUnits host manager).result = .error
          (.malformed ⟨"systemctl list-units", .invalidUtf8, none,
            text ++ Text.decodeLossy octets⟩) := by
  have result : (Manager.listUnits host manager).result =
      Systemctl.unitsOf manager.client.program (manager.unitsReply host) := rfl
  rw [result]
  refine ⟨fun r => ⟨?_, Systemctl.unitsOf_eq_of_enumerates⟩, ?_⟩
  · rintro rfl
    exact Systemctl.enumerates_unitsOf _ _
  · intro text octets stderr bad reply
    refine Systemctl.unitsOf_eq_of_enumerates ?_
    rw [reply]
    refine .noText rfl ?_ (Text.lossy_iff.mpr (Text.decodeLossy_encode_append text octets))
    exact Text.decode?_eq_none_iff.mp (Text.decode?_encode_append_eq_none bad text)

/-- A short line, an octet that begins no character, and two that begin one without its end: the
octets decide, and each of the two parts is replaced as a whole. -/
theorem listUnits_iff_enumerates_of_short_line :
    ∃ (host : Host) (manager : Manager), manager = ⟨⟨"systemctl", []⟩⟩ ∧
      host = .answering (.ok ⟨some 0, Text.encode "x\n" ++ [0xff, 0xe2, 0x82], []⟩) ∧
      Listing.read "x\n" = .error (Listing.shortLine 1 1 "x") ∧
      (Manager.listUnits host manager).result = .error
        (.malformed ⟨"systemctl list-units", .invalidUtf8, none, "x\n\uFFFD\uFFFD"⟩) := by
  have bad : ∀ t, ([0xff, 0xe2, 0x82] : Text.Octets) ≠ Text.encode t :=
    Text.decode?_eq_none_iff.mp (by decide +kernel)
  have replaced : Text.decodeLossy [0xff, 0xe2, 0x82] = "\uFFFD\uFFFD" := by decide +kernel
  refine ⟨_, _, rfl, rfl, by decide +kernel, ?_⟩
  have rejected := (listUnits_iff_enumerates
    (.answering (.ok ⟨some 0, Text.encode "x\n" ++ [0xff, 0xe2, 0x82], []⟩))
    ⟨⟨"systemctl", []⟩⟩).2 "x\n" _ [] bad rfl
  rwa [replaced] at rejected

end UnitHealth
