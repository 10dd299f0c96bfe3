import Mathlib.Algebra.Group.Nat.Defs
import Mathlib.Tactic.SplitIfs
import UnitHealth.Text.Utf8

/-!
# Decoding and encoding

The decoder looks at one octet at a time and keeps only the bits of the sequence that has begun and
the range of its next octet. The main statement relates it to the encoder, which knows nothing of
open sequences: octets are read as a text exactly when they encode that text. So octets that encode
no text are the ones that the decoder rejects.

Both directions go through the code points that fit an open sequence. Every code point that fits is
a character, and the octets read so far begin its encoding.
-/

namespace UnitHealth.Text

namespace Utf8

/-- The last octets of the encoding of a code point, given their number. -/
def tail : Nat → Nat → Octets
  | 0, _ => []
  | k + 1, n => UInt8.ofNat (n / 64 ^ k % 64 + 0x80) :: tail k n

/-- The code points whose encoding has the given number of octets after its first. -/
def Width : Nat → Nat → Prop
  | 1, n => 0x80 ≤ n ∧ n < 0x800
  | 2, n => 0x800 ≤ n ∧ n < 0x10000 ∧ n.isValidChar
  | 3, n => 0x10000 ≤ n ∧ n < 0x110000
  | _, _ => False

/-- What a first octet adds to the leading bits, given how many octets follow it. -/
def leadMark : Nat → Nat
  | 1 => 0xc0
  | 2 => 0xe0
  | _ => 0xf0

theorem toNat_tailOctet (n : Nat) : (UInt8.ofNat (n % 64 + 0x80)).toNat = n % 64 + 0x80 := by
  rw [UInt8.toNat_ofNat']
  omega

theorem Width.isValidChar {k n : Nat} (h : Width k n) : n.isValidChar := by
  match k, h with
  | 1, ⟨_, high⟩ => exact .inl (by omega)
  | 2, ⟨_, _, valid⟩ => exact valid
  | 3, ⟨low, high⟩ => exact .inr ⟨by omega, high⟩

/-- The encoding of a character of several octets, by the number of those after the first. -/
theorem utf8EncodeChar_of_width {k : Nat} {c : Char} (h : Width k c.toNat) :
    String.utf8EncodeChar c = UInt8.ofNat (c.toNat / 64 ^ k + leadMark k) :: tail k c.toNat := by
  rw [String.utf8EncodeChar]
  simp only [show c.val.toNat = c.toNat from rfl]
  match k, h with
  | 1, ⟨low, high⟩ =>
      rw [if_neg (by omega), if_pos (by omega), Nat.mod_eq_of_lt (by omega)]
      simp [tail, leadMark]
  | 2, ⟨low, high, _⟩ =>
      rw [if_neg (by omega), if_neg (by omega), if_pos (by omega)]
      rw [Nat.mod_eq_of_lt (a := c.toNat / 4096) (by omega)]
      simp [tail, leadMark]
  | 3, ⟨low, high⟩ =>
      rw [if_neg (by omega), if_neg (by omega), if_neg (by omega)]
      rw [Nat.mod_eq_of_lt (a := c.toNat / 262144) (by omega)]
      simp [tail, leadMark]

theorem utf8EncodeChar_of_lt {c : Char} (h : c.toNat < 0x80) :
    String.utf8EncodeChar c = [UInt8.ofNat c.toNat] := by
  rw [String.utf8EncodeChar]
  exact if_pos (show c.toNat ≤ 0x7f by omega)

theorem utf8EncodeChar_ofNat {octet : UInt8} (single : octet < 0x80) :
    String.utf8EncodeChar (Char.ofNat octet.toNat) = [octet] := by
  have bound : octet.toNat < 0x80 := by simpa [UInt8.lt_iff_toNat_lt] using single
  have same : (Char.ofNat octet.toNat).toNat = octet.toNat := by
    rw [Char.ofNat, dif_pos (.inl (by omega))]
    rfl
  rw [utf8EncodeChar_of_lt (by omega), same, UInt8.ofNat_toNat]

theorem lt_or_exists_width (c : Char) : c.toNat < 0x80 ∨ ∃ k, Width k c.toNat := by
  have valid : c.toNat.isValidChar := c.valid
  have bound : c.toNat < 0x110000 := by
    rcases valid with h | h <;> omega
  rcases Nat.lt_or_ge c.toNat 0x80 with h1 | h1
  · exact .inl h1
  rcases Nat.lt_or_ge c.toNat 0x800 with h2 | h2
  · exact .inr ⟨1, h1, h2⟩
  rcases Nat.lt_or_ge c.toNat 0x10000 with h3 | h3
  · exact .inr ⟨2, h2, h3, valid⟩
  · exact .inr ⟨3, h3, bound⟩

/-! ## Open sequences -/

/-- A code point fits an open sequence when its leading bits have been read, and the octet with
its next six bits lies in the range of the sequence. -/
structure Pending.Fits (p : Pending) (n : Nat) : Prop where
  bits : n / 64 ^ p.missing = p.bits
  low : p.low.toNat ≤ n / 64 ^ (p.missing - 1) % 64 + 0x80
  high : n / 64 ^ (p.missing - 1) % 64 + 0x80 ≤ p.high.toNat

theorem Pending.accepts_iff {p : Pending} {octet : UInt8} :
    p.accepts octet = true ↔ p.low.toNat ≤ octet.toNat ∧ octet.toNat ≤ p.high.toNat := by
  simp [Pending.accepts, UInt8.le_iff_toNat_le]

/-- The octets begin the encoding of every code point that fits the open sequence. -/
structure Began (octets : Octets) (p : Pending) : Prop where
  missing_pos : 0 < p.missing
  low_ge : 0x80 ≤ p.low.toNat
  high_le : p.high.toNat ≤ 0xbf
  valid : ∀ n, p.Fits n → n.isValidChar
  encode : ∀ c : Char, p.Fits c.toNat →
    String.utf8EncodeChar c = octets ++ tail p.missing c.toNat

/-- The widths of the code points that fit what a first octet leaves open. -/
theorem Pending.width_of_ofLead {octet : UInt8} {p : Pending}
    (h : Pending.ofLead octet = some p) :
    octet.toNat = p.bits + leadMark p.missing ∧ 0 < p.missing ∧ 0x80 ≤ p.low.toNat ∧
      p.high.toNat ≤ 0xbf ∧ ∀ n, p.Fits n → Width p.missing n := by
  unfold Pending.ofLead at h
  simp only [UInt8.le_iff_toNat_le, ← UInt8.toNat_inj, UInt8.reduceToNat] at h
  -- One case for each row of the table of first octets. In each the claim is arithmetic.
  split_ifs at h
  all_goals
    obtain rfl := Option.some.inj h
    refine ⟨?_, by simp, by simp, by simp, ?_⟩
    · simp only [leadMark]
      omega
    · rintro n ⟨bits, low, high⟩
      simp [Width, Nat.isValidChar] at bits low high ⊢
      omega

theorem Pending.began_of_ofLead {octet : UInt8} {p : Pending}
    (h : Pending.ofLead octet = some p) : Began [octet] p := by
  obtain ⟨lead, missing_pos, low_ge, high_le, width⟩ := Pending.width_of_ofLead h
  refine ⟨missing_pos, low_ge, high_le, fun n fits => (width n fits).isValidChar, ?_⟩
  intro c fits
  rw [utf8EncodeChar_of_width (width c.toNat fits), fits.bits, ← lead, UInt8.ofNat_toNat]
  rfl

/-- Every width has its first octets, and they leave open what the code point fits. -/
theorem Pending.exists_ofLead {k n : Nat} (h : Width k n) :
    ∃ p, Pending.ofLead (UInt8.ofNat (n / 64 ^ k + leadMark k)) = some p ∧ p.missing = k ∧
      p.Fits n := by
  unfold Pending.ofLead
  simp only [UInt8.le_iff_toNat_le, ← UInt8.toNat_inj, UInt8.reduceToNat, UInt8.toNat_ofNat']
  match k, h with
  | 1, ⟨low, high⟩ =>
      simp only [leadMark]
      rw [if_pos (by omega)]
      exact ⟨_, rfl, rfl, by simp; omega, by simp, by simp; omega⟩
  | 2, ⟨low, high, valid⟩ =>
      simp only [leadMark]
      rw [if_neg (by omega)]
      split_ifs
      · exact ⟨_, rfl, rfl, by simp; omega, by simp; omega, by simp; omega⟩
      · refine ⟨_, rfl, rfl, by simp; omega, by simp, ?_⟩
        simp [Nat.isValidChar] at valid ⊢
        omega
      · exact ⟨_, rfl, rfl, by simp; omega, by simp, by simp; omega⟩
      all_goals omega
  | 3, ⟨low, high⟩ =>
      simp only [leadMark]
      rw [if_neg (by omega), if_neg (by omega), if_neg (by omega), if_neg (by omega)]
      split_ifs
      · exact ⟨_, rfl, rfl, by simp; omega, by simp; omega, by simp; omega⟩
      · exact ⟨_, rfl, rfl, by simp; omega, by simp, by simp; omega⟩
      · exact ⟨_, rfl, rfl, by simp; omega, by simp, by simp; omega⟩
      · omega

/-- One more octet leaves fewer code points that fit, and the octets begin the encoding of
each. -/
theorem Began.step {octets : Octets} {p : Pending} {octet : UInt8} (h : Began octets p)
    (accepted : p.accepts octet = true) (more : 1 < p.missing) :
    Began (octets ++ [octet]) ⟨p.bitsWith octet, p.missing - 1, 0x80, 0xbf⟩ := by
  obtain ⟨low, high⟩ := Pending.accepts_iff.mp accepted
  have low_ge := h.low_ge
  have high_le := h.high_le
  obtain ⟨k, hk⟩ : ∃ k, p.missing = k + 1 := ⟨p.missing - 1, by omega⟩
  have fits (n : Nat) (hn : Pending.Fits ⟨p.bitsWith octet, p.missing - 1, 0x80, 0xbf⟩ n) :
      p.Fits n ∧ UInt8.ofNat (n / 64 ^ k % 64 + 0x80) = octet := by
    have bits : n / 64 ^ k = p.bits * 64 + octet.toNat % 64 := by
      simpa [hk, Pending.bitsWith] using hn.bits
    have six : n / 64 ^ k % 64 + 0x80 = octet.toNat := by omega
    refine ⟨⟨?_, ?_, ?_⟩, ?_⟩
    · rw [hk, Nat.pow_succ, ← Nat.div_div_eq_div_mul, bits]
      omega
    · rw [hk, Nat.add_sub_cancel, six]
      exact low
    · rw [hk, Nat.add_sub_cancel, six]
      exact high
    · rw [six, UInt8.ofNat_toNat]
  refine ⟨by simp; omega, by simp, by simp, fun n hn => h.valid n (fits n hn).1, ?_⟩
  intro c hc
  obtain ⟨whole, next⟩ := fits c.toNat hc
  rw [h.encode c whole, hk, tail, next]
  simp

/-- The last octet completes the encoding of a character. -/
theorem Began.finish {octets : Octets} {p : Pending} {octet : UInt8} (h : Began octets p)
    (accepted : p.accepts octet = true) (last : p.missing ≤ 1) :
    String.utf8EncodeChar (Char.ofNat (p.bitsWith octet)) = octets ++ [octet] := by
  obtain ⟨low, high⟩ := Pending.accepts_iff.mp accepted
  have low_ge := h.low_ge
  have high_le := h.high_le
  have one : p.missing = 1 := by have := h.missing_pos; omega
  have six : p.bitsWith octet % 64 + 0x80 = octet.toNat := by
    rw [Pending.bitsWith]
    omega
  have fits : p.Fits (p.bitsWith octet) := by
    refine ⟨?_, ?_, ?_⟩
    · rw [one, Pending.bitsWith]
      omega
    · simpa [one, six] using low
    · simpa [one, six] using high
  have same : (Char.ofNat (p.bitsWith octet)).toNat = p.bitsWith octet := by
    rw [Char.ofNat, dif_pos (h.valid _ fits)]
    rfl
  rw [h.encode _ (by rwa [same]), same, one]
  simp [tail, six]

/-! ## Decoding an encoding -/

theorem piecesFrom_cons (state : Option Pending) (octet : UInt8) (rest : Octets) :
    piecesFrom state (octet :: rest) =
      (step state octet).1 ++ piecesFrom (step state octet).2 rest := by
  cases state <;> rfl

/-- The last octets of an encoding complete an open sequence that its code point fits. -/
theorem piecesFrom_tail {c : Char} (rest : Octets) {p : Pending} (fits : p.Fits c.toNat)
    (missing_pos : 0 < p.missing) :
    piecesFrom (some p) (tail p.missing c.toNat ++ rest) = some c :: pieces rest := by
  obtain ⟨bits, missing, low, high⟩ := p
  induction missing generalizing bits low high with
  | zero => exact absurd missing_pos (Nat.lt_irrefl 0)
  | succ k ih =>
      have octet := toNat_tailOctet (c.toNat / 64 ^ k)
      have accepted : Pending.accepts ⟨bits, k + 1, low, high⟩
          (UInt8.ofNat (c.toNat / 64 ^ k % 64 + 0x80)) = true := by
        rw [Pending.accepts_iff, octet]
        exact ⟨fits.low, fits.high⟩
      have whole : bits * 64 + (c.toNat / 64 ^ k % 64 + 0x80) % 64 = c.toNat / 64 ^ k := by
        have lead : c.toNat / 64 ^ (k + 1) = bits := fits.bits
        rw [Nat.pow_succ, ← Nat.div_div_eq_div_mul] at lead
        omega
      rw [tail, List.cons_append, piecesFrom_cons, step, if_pos accepted]
      simp only [Pending.bitsWith, octet, whole]
      cases k with
      | zero => simp [tail, pieces]
      | succ k =>
          rw [if_neg (by omega)]
          refine ih _ _ _ ⟨?_, ?_, ?_⟩ (Nat.succ_pos k)
          · rfl
          · simp
          · simp
            omega

theorem pieces_utf8EncodeChar (c : Char) (rest : Octets) :
    pieces (String.utf8EncodeChar c ++ rest) = some c :: pieces rest := by
  rcases lt_or_exists_width c with h | ⟨k, width⟩
  · have octet : (UInt8.ofNat c.toNat).toNat = c.toNat := by
      rw [UInt8.toNat_ofNat']
      omega
    rw [utf8EncodeChar_of_lt h, List.singleton_append, pieces, piecesFrom_cons, step, start,
      if_pos (by rw [UInt8.lt_iff_toNat_lt, octet]; exact h)]
    simp [octet, pieces]
  · obtain ⟨p, lead, rfl, fits⟩ := Pending.exists_ofLead width
    obtain ⟨octet, missing_pos, -⟩ := Pending.width_of_ofLead lead
    have several : ¬ UInt8.ofNat (c.toNat / 64 ^ p.missing + leadMark p.missing) < 0x80 := by
      rw [UInt8.lt_iff_toNat_lt, octet, leadMark.eq_def]
      split <;> simp
    rw [utf8EncodeChar_of_width width, List.cons_append, pieces, piecesFrom_cons, step, start,
      if_neg several, lead]
    exact piecesFrom_tail rest fits missing_pos

/-- The pieces of an encoded text are its characters, without a mark. -/
theorem pieces_flatMap_utf8EncodeChar (cs : List Char) :
    pieces (cs.flatMap String.utf8EncodeChar) = cs.map some := by
  induction cs with
  | nil => rfl
  | cons c cs ih => rw [List.flatMap_cons, pieces_utf8EncodeChar, ih, List.map_cons]

/-! ## Encoding what has been decoded -/

/-- The octets of which a state knows: those of the open sequence, if there is one. -/
def Knows : Octets → Option Pending → Prop
  | octets, none => octets = []
  | octets, some p => Began octets p

/-- What one octet can do from a state, given the octets of which the state knows: it emits a
mark, or it belongs to the open sequence, or it completes the encoding of a character. -/
theorem Knows.step {known : Octets} {state : Option Pending} (h : Knows known state)
    (octet : UInt8) :
    none ∈ (step state octet).1 ∨
      ((step state octet).1 = [] ∧ Knows (known ++ [octet]) (step state octet).2) ∨
      ∃ c, step state octet = ([some c], none) ∧ known ++ [octet] = String.utf8EncodeChar c := by
  cases state with
  | none =>
      obtain rfl : known = [] := h
      rw [Utf8.step, start]
      split_ifs with single
      · exact .inr (.inr ⟨_, rfl, (utf8EncodeChar_ofNat single).symm⟩)
      · cases lead : Pending.ofLead octet with
        | none => exact .inl List.mem_cons_self
        | some p => exact .inr (.inl ⟨rfl, Pending.began_of_ofLead lead⟩)
  | some p =>
      have began : Began known p := h
      rw [Utf8.step]
      split_ifs with accepted last
      · exact .inr (.inr ⟨_, rfl, (began.finish accepted last).symm⟩)
      · exact .inr (.inl ⟨rfl, began.step accepted (by omega)⟩)
      · exact .inl List.mem_cons_self

/-- Octets that are read without a mark encode what is read. From a state with an open sequence
they do so together with the octets of that sequence. -/
theorem eq_flatMap_of_piecesFrom {known octets : Octets} {state : Option Pending}
    {cs : List Char} (knows : Knows known state) (h : piecesFrom state octets = cs.map some) :
    known ++ octets = cs.flatMap String.utf8EncodeChar := by
  induction octets generalizing known state cs with
  | nil =>
      cases state with
      | none =>
          obtain rfl : known = [] := knows
          obtain rfl : cs = [] := by simpa [piecesFrom] using h
          rfl
      | some p => cases cs <;> simp [piecesFrom] at h
  | cons octet rest ih =>
      rw [piecesFrom_cons] at h
      rw [← List.singleton_append, ← List.append_assoc]
      obtain mark | ⟨quiet, next⟩ | ⟨c, emitted, encoded⟩ := knows.step octet
      · have member := List.mem_append_left (piecesFrom (step state octet).2 rest) mark
        rw [h] at member
        simp at member
      · rw [quiet, List.nil_append] at h
        exact ih next h
      · rw [emitted, List.singleton_append] at h
        obtain ⟨d, ds, rfl, first, others⟩ := List.map_eq_cons_iff.mp h.symm
        obtain rfl := Option.some.inj first
        have begun : Knows [] none := rfl
        have rest_eq := ih begun others.symm
        rw [encoded, List.flatMap_cons, ← rest_eq, List.nil_append]

theorem pieces_eq_map_some_iff {octets : Octets} {cs : List Char} :
    pieces octets = cs.map some ↔ octets = cs.flatMap String.utf8EncodeChar := by
  constructor
  · have begun : Knows [] none := rfl
    exact eq_flatMap_of_piecesFrom begun
  · rintro rfl
    exact pieces_flatMap_utf8EncodeChar cs

end Utf8

theorem mapM_id_eq_some_iff {α : Type} {xs : List (Option α)} {ys : List α} :
    xs.mapM id = some ys ↔ xs = ys.map some := by
  induction xs generalizing ys with
  | nil => cases ys <;> simp
  | cons x xs ih =>
      cases x with
      | none => cases ys <;> simp
      | some x =>
          rw [List.mapM_cons, Option.bind_eq_bind]
          simp only [id, Option.bind_some, Option.bind_eq_bind, Option.bind_eq_some_iff, ih]
          constructor
          · rintro ⟨zs, rfl, last⟩
            obtain rfl := Option.some.inj last
            rfl
          · intro h
            obtain ⟨y, zs, rfl, first, others⟩ := List.map_eq_cons_iff.mp h.symm
            obtain rfl := Option.some.inj first
            exact ⟨zs, others.symm, rfl⟩

theorem decode?_eq_some_iff {octets : Octets} {text : String} :
    decode? octets = some text ↔ octets = encode text := by
  rw [decode?, Option.map_eq_some_iff, encode, ← Utf8.pieces_eq_map_some_iff]
  constructor
  · rintro ⟨cs, read, rfl⟩
    rw [String.toList_ofList]
    exact mapM_id_eq_some_iff.mp read
  · intro read
    exact ⟨text.toList, mapM_id_eq_some_iff.mpr read, String.ofList_toList⟩

@[simp] theorem decode?_encode (text : String) : decode? (encode text) = some text :=
  decode?_eq_some_iff.mpr rfl

theorem decode?_eq_none_iff {octets : Octets} :
    decode? octets = none ↔ ∀ text, octets ≠ encode text := by
  simp [Option.eq_none_iff_forall_ne_some, decode?_eq_some_iff]

theorem encode_injective {a b : String} (h : encode a = encode b) : a = b := by
  have read := decode?_eq_some_iff.mpr h
  rw [decode?_encode] at read
  exact Option.some.inj read

end UnitHealth.Text
