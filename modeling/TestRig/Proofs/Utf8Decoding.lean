import Mathlib.Tactic
import TestRig.Text.Utf8

/-!
What the decoder makes of whole characters and of torn ones. The bytes of a character, one behind
the other, give the character. If another character begins before they are all there, a replacement
stands for those that were. How many characters come out is bounded below by what the bytes carry: a
byte that needs others to make a character carries a part of it only, and the bytes of a character
carry one character together.
-/

namespace TestRig.Text.Utf8

inductive Finishes (c : Char) : Open → List UInt8 → Prop
  | last {o : Open} {b : UInt8} : o.missing = 1 → o.low ≤ b.toNat ∧ b.toNat ≤ o.high →
      Char.ofNat (o.bits * 64 + (b.toNat - 0x80)) = c → Finishes c o [b]
  | step {o : Open} {b : UInt8} {more : List UInt8} : 1 < o.missing →
      o.low ≤ b.toNat ∧ b.toNat ≤ o.high →
      Finishes c ⟨o.bits * 64 + (b.toNat - 0x80), o.missing - 1, 0x80, 0xBF⟩ more →
      Finishes c o (b :: more)

/-- Something is missing, and only bytes that begin no sequence are taken for it. -/
structure Open.Sound (o : Open) : Prop where
  low : 0x80 ≤ o.low
  high : o.high ≤ 0xBF
  least : 1 ≤ o.missing
  most : o.missing ≤ 3

theorem lead_one {b : UInt8} (small : b.toNat < 0x80) : lead b = .whole (Char.ofNat b.toNat) :=
  if_pos small

theorem lead_two {b : UInt8} (least : 0xC2 ≤ b.toNat) (most : b.toNat ≤ 0xDF) :
    lead b = .opens ⟨b.toNat - 0xC0, 1, 0x80, 0xBF⟩ := by
  have large : ¬ b.toNat < 0x80 := by omega
  simp only [lead, large, least, most, if_false, and_self, if_true]

/-- The first of three bytes; the next is bounded so that no shorter sequence and no surrogate is
written. -/
theorem lead_three {b : UInt8} (least : 0xE0 ≤ b.toNat) (most : b.toNat ≤ 0xEF) :
    ∃ o : Open, lead b = .opens o ∧ o.bits = b.toNat - 0xE0 ∧ o.missing = 2 ∧
      ∀ n, 0x80 ≤ n → n ≤ 0xBF → (b.toNat = 0xE0 → 0xA0 ≤ n) → (b.toNat = 0xED → n ≤ 0x9F) →
        o.low ≤ n ∧ n ≤ o.high := by
  simp only [lead]
  rw [if_neg (by omega), if_neg (by omega)]
  split_ifs with h h'
  · exact ⟨_, rfl, by simp [h], rfl, fun n _ above low _ => ⟨low h, above⟩⟩
  · exact ⟨_, rfl, by simp [h'], rfl, fun n below _ _ high => ⟨below, high h'⟩⟩
  · exact ⟨_, rfl, rfl, rfl, fun n below above _ _ => ⟨below, above⟩⟩
  · omega
  · omega
  · omega
  · omega

theorem lead_four {b : UInt8} (least : 0xF0 ≤ b.toNat) (most : b.toNat ≤ 0xF4) :
    ∃ o : Open, lead b = .opens o ∧ o.bits = b.toNat - 0xF0 ∧ o.missing = 3 ∧
      ∀ n, 0x80 ≤ n → n ≤ 0xBF → (b.toNat = 0xF0 → 0x90 ≤ n) → (b.toNat = 0xF4 → n ≤ 0x8F) →
        o.low ≤ n ∧ n ≤ o.high := by
  simp only [lead]
  rw [if_neg (by omega), if_neg (by omega), if_neg (by omega), if_neg (by omega), if_neg (by omega)]
  split_ifs with h h' h''
  · exact ⟨_, rfl, by simp [h], rfl, fun n _ above low _ => ⟨low h, above⟩⟩
  · exact ⟨_, rfl, rfl, rfl, fun n below above _ _ => ⟨below, above⟩⟩
  · exact ⟨_, rfl, by simp [h''], rfl, fun n below _ _ high => ⟨below, high h''⟩⟩
  · omega

theorem toNat_byte {n : Nat} (small : n < 256) : (UInt8.ofNat n).toNat = n :=
  UInt8.toNat_ofNat_of_lt' small

theorem finishes_last {c : Char} {o : Open} {n : Nat} (one : o.missing = 1) (below : o.low ≤ 0x80)
    (above : 0xBF ≤ o.high) (whole : o.bits * 64 + n % 64 = c.toNat) :
    Finishes c o [UInt8.ofNat (n % 64 + 0x80)] := by
  have byte : (UInt8.ofNat (n % 64 + 0x80)).toNat = n % 64 + 0x80 := toNat_byte (by omega)
  refine .last one (by omega) ?_
  rw [byte, Nat.add_sub_cancel, whole, Char.ofNat_toNat]

theorem finishes_step {c : Char} {o : Open} {n : Nat} {more : List UInt8} (many : 1 < o.missing)
    (taken : o.low ≤ n % 64 + 0x80 ∧ n % 64 + 0x80 ≤ o.high)
    (later : Finishes c ⟨o.bits * 64 + n % 64, o.missing - 1, 0x80, 0xBF⟩ more) :
    Finishes c o (UInt8.ofNat (n % 64 + 0x80) :: more) := by
  have byte : (UInt8.ofNat (n % 64 + 0x80)).toNat = n % 64 + 0x80 := toNat_byte (by omega)
  refine .step many (by omega) ?_
  rwa [byte, Nat.add_sub_cancel]

theorem encodeChar_ascii {c : Char} (ascii : c.toNat < 128) :
    String.utf8EncodeChar c = [UInt8.ofNat c.toNat] := by
  rw [String.utf8EncodeChar]
  exact if_pos (Nat.le_of_lt_succ ascii)

theorem encode_cases (c : Char) :
    (∃ b, String.utf8EncodeChar c = [b] ∧ lead b = .whole c) ∨
      ∃ b o more, String.utf8EncodeChar c = b :: more ∧ lead b = .opens o ∧
        Finishes c o more := by
  have valid : c.toNat < 0xD800 ∨ 0xDFFF < c.toNat ∧ c.toNat < 0x110000 := c.valid
  have code : c.val.toNat = c.toNat := rfl
  simp only [String.utf8EncodeChar, code]
  generalize v_eq : c.toNat = v at valid
  split_ifs with one two three
  · have byte : (UInt8.ofNat v).toNat = v := toNat_byte (by omega)
    refine .inl ⟨_, rfl, ?_⟩
    rw [lead_one (by omega), byte, ← v_eq, Char.ofNat_toNat]
  · have byte : (UInt8.ofNat (v / 64 % 32 + 0xC0)).toNat = v / 64 % 32 + 0xC0 :=
      toNat_byte (by omega)
    have opens := lead_two (b := UInt8.ofNat (v / 64 % 32 + 0xC0)) (by omega) (by omega)
    refine .inr ⟨_, _, _, rfl, opens, ?_⟩
    refine finishes_last rfl (Nat.le_refl _) (Nat.le_refl _) ?_
    simp only [byte, v_eq]
    omega
  · have byte : (UInt8.ofNat (v / 4096 % 16 + 0xE0)).toNat = v / 4096 % 16 + 0xE0 :=
      toNat_byte (by omega)
    obtain ⟨o, opens, bits, missing, takes⟩ :=
      lead_three (b := UInt8.ofNat (v / 4096 % 16 + 0xE0)) (by omega) (by omega)
    refine .inr ⟨_, o, _, rfl, opens, ?_⟩
    refine finishes_step (by omega) (takes _ (by omega) (by omega) (by omega) (by omega)) ?_
    refine finishes_last (by simp [missing]) (Nat.le_refl _) (Nat.le_refl _) ?_
    simp only [bits, byte, v_eq]
    omega
  · have byte : (UInt8.ofNat (v / 262144 % 8 + 0xF0)).toNat = v / 262144 % 8 + 0xF0 :=
      toNat_byte (by omega)
    obtain ⟨o, opens, bits, missing, takes⟩ :=
      lead_four (b := UInt8.ofNat (v / 262144 % 8 + 0xF0)) (by omega) (by omega)
    refine .inr ⟨_, o, _, rfl, opens, ?_⟩
    refine finishes_step (by omega) (takes _ (by omega) (by omega) (by omega) (by omega)) ?_
    refine finishes_step (by simp [missing]) (by simp; omega) ?_
    refine finishes_last (by simp [missing]) (Nat.le_refl _) (Nat.le_refl _) ?_
    simp only [bits, byte, v_eq]
    omega

theorem lead_inner {b : UInt8} (least : 0x80 ≤ b.toNat) (most : b.toNat ≤ 0xBF) :
    lead b = .stray := by
  simp only [lead]
  rw [if_neg (by omega), if_neg (by omega), if_neg (by omega), if_neg (by omega), if_neg (by omega),
    if_neg (by omega), if_neg (by omega), if_neg (by omega)]

theorem sound_of_lead {b : UInt8} {o : Open} (opens : lead b = .opens o) : o.Sound := by
  simp only [lead] at opens
  split_ifs at opens <;> obtain rfl := Lead.opens.inj opens <;> constructor <;> simp

namespace Open.Sound

variable {o : Open} {b : UInt8}

theorem lead_taken (sound : o.Sound) (taken : o.low ≤ b.toNat ∧ b.toNat ≤ o.high) :
    lead b = .stray :=
  lead_inner (sound.low.trans taken.1) (taken.2.trans sound.high)

theorem next (sound : o.Sound) (many : 1 < o.missing) (bits : Nat) :
    Sound ⟨bits, o.missing - 1, 0x80, 0xBF⟩ where
  low := Nat.le_refl _
  high := Nat.le_refl _
  least := Nat.le_sub_one_of_lt many
  most := (Nat.sub_le _ _).trans sound.most

end Open.Sound

theorem decodeFrom_finishes {c : Char} {o : Open} {more : List UInt8} (finishes : Finishes c o more)
    (rest : List UInt8) : decodeFrom (some o) (more ++ rest) = c :: decodeFrom none rest := by
  induction finishes with
  | last one taken whole =>
    rw [List.singleton_append, decodeFrom]
    simp only [taken, and_self, if_true, one, Nat.le_refl, whole]
  | step many taken _ ih =>
    rw [List.cons_append, decodeFrom]
    simp only [taken, and_self, if_true, if_neg (Nat.not_le_of_lt many), ih]

theorem decode_encodeChar (c : Char) (rest : List UInt8) :
    decode (String.utf8EncodeChar c ++ rest) = c :: decode rest := by
  obtain ⟨b, single, whole⟩ | ⟨b, o, more, several, opens, finishes⟩ := encode_cases c
  · rw [single, List.singleton_append, decode, decodeFrom, decodeFrom.begin, whole, decode]
  · rw [several, List.cons_append, decode, decodeFrom, decodeFrom.begin, opens]
    exact decodeFrom_finishes finishes rest

theorem decode_encodeChars (cs : List Char) : decode (cs.flatMap String.utf8EncodeChar) = cs := by
  induction cs with
  | nil => rw [List.flatMap_nil, decode, decodeFrom]
  | cons c cs ih => rw [List.flatMap_cons, decode_encodeChar, ih]

theorem encodeChars_injective {cs cs' : List Char}
    (same : cs.flatMap String.utf8EncodeChar = cs'.flatMap String.utf8EncodeChar) : cs = cs' := by
  rw [← decode_encodeChars cs, same, decode_encodeChars]

theorem lead_head_encodeChar {c : Char} {b : UInt8} {more : List UInt8}
    (bytes : String.utf8EncodeChar c = b :: more) : lead b ≠ .stray := by
  obtain ⟨b', single, leads⟩ | ⟨b', o, more', several, leads, -⟩ := encode_cases c
  · obtain rfl := (List.cons.inj (single.symm.trans bytes)).1
    rw [leads]
    nofun
  · obtain rfl := (List.cons.inj (several.symm.trans bytes)).1
    rw [leads]
    nofun

theorem decodeFrom_torn {c : Char} {o : Open} {part later : List UInt8} {b y : UInt8}
    (finishes : Finishes c o (part ++ b :: later)) (sound : o.Sound) (leads : lead y ≠ .stray)
    (rest : List UInt8) :
    decodeFrom (some o) (part ++ y :: rest) = replacement :: decode (y :: rest) := by
  induction part generalizing o with
  | nil =>
    have refused : ¬ (o.low ≤ y.toNat ∧ y.toNat ≤ o.high) := fun taken =>
      leads (sound.lead_taken taken)
    rw [List.nil_append, decodeFrom, decode, decodeFrom]
    simp only [refused, if_false]
  | cons p part ih =>
    rw [List.cons_append] at finishes
    generalize bytes : part ++ b :: later = more at finishes
    cases finishes with
    | last => simp at bytes
    | step many taken finishes =>
      rw [List.cons_append, decodeFrom]
      simp only [taken, and_self, if_true, if_neg (Nat.not_le_of_lt many)]
      exact ih (bytes ▸ finishes) (sound.next many _)

theorem decode_torn {c : Char} {part later : List UInt8} {b y : UInt8} (begun : part ≠ [])
    (bytes : String.utf8EncodeChar c = part ++ b :: later) (leads : lead y ≠ .stray)
    (rest : List UInt8) : decode (part ++ y :: rest) = replacement :: decode (y :: rest) := by
  obtain ⟨p, part, rfl⟩ := List.exists_cons_of_ne_nil begun
  obtain ⟨p', single, -⟩ | ⟨p', o, more, several, opens, finishes⟩ := encode_cases c
  · simp [single] at bytes
  · obtain ⟨rfl, rfl⟩ := List.cons.inj (several.symm.trans bytes)
    rw [List.cons_append, decode, decodeFrom, decodeFrom.begin, opens]
    exact decodeFrom_torn finishes (sound_of_lead opens) leads rest

def quarters (b : UInt8) : Nat :=
  match lead b with
  | .whole _ => 4
  | .opens o => 4 - o.missing
  | .stray => 1

def carried (bytes : List UInt8) : Nat := (bytes.map quarters).sum

theorem carried_cons (b : UInt8) (rest : List UInt8) :
    carried (b :: rest) = quarters b + carried rest := by
  rw [carried, List.map_cons, List.sum_cons, carried]

theorem carried_append (bytes rest : List UInt8) :
    carried (bytes ++ rest) = carried bytes + carried rest := by
  rw [carried, List.map_append, List.sum_append, carried, carried]

theorem quarters_pos (b : UInt8) : 0 < quarters b := by
  cases leads : lead b with
  | opens o =>
    have few := (sound_of_lead leads).most
    simp only [quarters, leads]
    omega
  | _ => simp [quarters, leads]

theorem Open.Sound.quarters_taken {o : Open} {b : UInt8} (sound : o.Sound)
    (taken : o.low ≤ b.toNat ∧ b.toNat ≤ o.high) : quarters b = 1 := by
  rw [quarters, sound.lead_taken taken]

theorem carried_finishes {c : Char} {o : Open} {more : List UInt8} (finishes : Finishes c o more)
    (sound : o.Sound) : carried more = o.missing := by
  induction finishes with
  | last one taken _ => rw [carried_cons, sound.quarters_taken taken, one]; rfl
  | step many taken _ ih =>
    rw [carried_cons, sound.quarters_taken taken, ih (sound.next many _)]
    exact Nat.add_sub_cancel' many.le

theorem carried_encodeChar (c : Char) : carried (String.utf8EncodeChar c) = 4 := by
  obtain ⟨b, single, leads⟩ | ⟨b, o, more, several, leads, finishes⟩ := encode_cases c
  · simp [single, carried, quarters, leads]
  · have sound := sound_of_lead leads
    rw [several, carried_cons, carried_finishes finishes sound, quarters, leads]
    exact Nat.sub_add_cancel (sound.most.trans (by decide))

theorem carried_encodeChars (cs : List Char) :
    carried (cs.flatMap String.utf8EncodeChar) = 4 * cs.length := by
  induction cs with
  | nil => rfl
  | cons c cs ih =>
    rw [List.flatMap_cons, carried_append, carried_encodeChar, ih, List.length_cons]
    omega

/-- As many characters come out as the bytes carry, or more. An open sequence brings with it all but
what it misses. -/
theorem carried_le_decodeFrom (bytes : List UInt8) :
    carried bytes ≤ 4 * (decodeFrom none bytes).length ∧
    ∀ o : Open, o.Sound →
      carried bytes + 4 ≤ 4 * (decodeFrom (some o) bytes).length + o.missing := by
  induction bytes with
  | nil =>
    refine ⟨Nat.zero_le _, fun o sound => ?_⟩
    rw [decodeFrom, List.length_singleton]
    exact Nat.le_add_right 4 _
  | cons b rest ih =>
    obtain ⟨plain, opened⟩ := ih
    have begun : carried (b :: rest) ≤ 4 * (decodeFrom.begin b rest).length := by
      rw [carried_cons, decodeFrom.begin, quarters]
      cases leads : lead b with
      | whole c => simpa [Nat.mul_add, Nat.add_comm] using plain
      | opens o =>
        have sound := sound_of_lead leads
        have later := opened o sound
        have few := sound.most
        simp only
        omega
      | stray =>
        simp only [List.length_cons]
        omega
    refine ⟨by rwa [decodeFrom], fun o sound => ?_⟩
    rw [decodeFrom]
    dsimp only
    split_ifs with taken one
    · have least := sound.least
      rw [carried_cons, sound.quarters_taken taken, List.length_cons]
      omega
    · have many := Nat.lt_of_not_le one
      have later := opened _ (sound.next many (o.bits * 64 + (b.toNat - 0x80)))
      rw [carried_cons, sound.quarters_taken taken]
      simp only at later
      omega
    · rw [List.length_cons]
      omega

theorem carried_le_decode (bytes : List UInt8) : carried bytes ≤ 4 * (decode bytes).length :=
  (carried_le_decodeFrom bytes).1

theorem carried_lt_torn {c : Char} {part later : List UInt8} {b y : UInt8} (begun : part ≠ [])
    (bytes : String.utf8EncodeChar c = part ++ b :: later) (leads : lead y ≠ .stray)
    (rest : List UInt8) :
    carried (part ++ y :: rest) < 4 * (decode (part ++ y :: rest)).length := by
  have part_lt : carried part < 4 := by
    have whole := carried_encodeChar c
    have behind := quarters_pos b
    rw [bytes, carried_append, carried_cons] at whole
    omega
  have onward := carried_le_decode (y :: rest)
  rw [decode_torn begun bytes leads, carried_append, List.length_cons]
  omega

end TestRig.Text.Utf8
