import Mathlib.Tactic
import TestRig.Proofs.Merges
import TestRig.Proofs.Utf8Decoding
import TestRig.Proofs.World
import TestRig.Suite.Supervision

/-!
What a result keeps of a worker's output. Both streams are read by pieces, in any order, and the
pieces are put behind one another before the bytes are taken for text. Byte for byte nothing is lost
or moved. A character is, though, when a piece of the other stream comes between its bytes: it is
replaced, and more characters are shown than were written. The text is a merge of the two that were
written exactly if that happens to none.
-/

namespace TestRig.Suite.Worker

open Host (Channel Chunk Result)
open Text.Utf8 (carried decode encode)

section Streams

variable {α : Type}

def sentOn (k : Channel) (marked : List (Channel × α)) : List α :=
  marked.filterMap fun x => if x.1 = k then some x.2 else none

@[simp] theorem sentOn_nil (k : Channel) : sentOn k ([] : List (Channel × α)) = [] := rfl

@[simp] theorem sentOn_cons_self (k : Channel) (a : α) (rest : List (Channel × α)) :
    sentOn k ((k, a) :: rest) = a :: sentOn k rest := by
  simp [sentOn]

theorem sentOn_cons_of_ne {j k : Channel} (other : j ≠ k) (a : α) (rest : List (Channel × α)) :
    sentOn k ((j, a) :: rest) = sentOn k rest := by
  simp [sentOn, other]

@[simp] theorem sentOn_append (k : Channel) (first rest : List (Channel × α)) :
    sentOn k (first ++ rest) = sentOn k first ++ sentOn k rest :=
  List.filterMap_append

@[simp] theorem sentOn_map_self (k : Channel) (as : List α) : sentOn k (as.map (k, ·)) = as := by
  simp [sentOn, List.filterMap_map]

theorem sentOn_map_of_ne {j k : Channel} (other : j ≠ k) (as : List α) :
    sentOn k (as.map (j, ·)) = [] := by
  simp [sentOn, other]

theorem map_snd_map (k : Channel) (as : List α) : (as.map (k, ·)).map Prod.snd = as := by
  simp [Function.comp_def]

theorem mem_sentOn {k : Channel} {a : α} {marked : List (Channel × α)} :
    a ∈ sentOn k marked ↔ (k, a) ∈ marked := by
  simp [sentOn]

theorem merges_marked (marked : List (Channel × α)) :
    Merges (sentOn .out marked) (sentOn .err marked) (marked.map Prod.snd) := by
  induction marked with
  | nil => exact .nil
  | cons x rest ih =>
    obtain ⟨k, a⟩ := x
    cases k with
    | out =>
      rw [sentOn_cons_self, sentOn_cons_of_ne (by decide)]
      exact .left ih
    | err =>
      rw [sentOn_cons_self, sentOn_cons_of_ne (by decide)]
      exact .right ih

theorem split_stream {k : Channel} {as rest : List α} {marked : List (Channel × α)}
    (sent : sentOn k marked = as ++ rest) :
    (∃ onward, marked = as.map (k, ·) ++ onward) ∨
      ∃ part a later j y onward, as = part ++ a :: later ∧ j ≠ k ∧
        marked = part.map (k, ·) ++ (j, y) :: onward := by
  induction as generalizing marked with
  | nil => exact .inl ⟨marked, rfl⟩
  | cons a as ih =>
    cases marked with
    | nil => simp at sent
    | cons x marked =>
      obtain ⟨j, y⟩ := x
      by_cases same : j = k
      · subst same
        rw [sentOn_cons_self, List.cons_append, List.cons.injEq] at sent
        obtain ⟨rfl, sent⟩ := sent
        obtain ⟨onward, rfl⟩ | ⟨part, a, later, i, z, onward, rfl, other, rfl⟩ := ih sent
        · exact .inl ⟨onward, rfl⟩
        · exact .inr ⟨y :: part, a, later, i, z, onward, rfl, other, rfl⟩
      · exact .inr ⟨[], a, as, j, y, marked, rfl, same, rfl⟩

end Streams

def charBytes (row : List (Channel × Char)) : List (Channel × UInt8) :=
  row.flatMap fun x => (String.utf8EncodeChar x.2).map (x.1, ·)

theorem charBytes_cons (k : Channel) (c : Char) (row : List (Channel × Char)) :
    charBytes ((k, c) :: row) = (String.utf8EncodeChar c).map (k, ·) ++ charBytes row :=
  List.flatMap_cons

theorem whole_of_ascii {marked : List (Channel × UInt8)} (ascii : ∀ x ∈ marked, x.2.toNat < 128) :
    ∃ row, marked = charBytes row := by
  induction marked with
  | nil => exact ⟨[], rfl⟩
  | cons x marked ih =>
    obtain ⟨k, b⟩ := x
    obtain ⟨small, later⟩ := List.forall_mem_cons.1 ascii
    obtain ⟨row, rfl⟩ := ih later
    have code : (Char.ofNat b.toNat).toNat = b.toNat := by
      rw [Char.ofNat, dif_pos (.inl (small.trans (by decide)))]
      rfl
    refine ⟨(k, Char.ofNat b.toNat) :: row, ?_⟩
    rw [charBytes_cons, Text.Utf8.encodeChar_ascii (by rwa [code]), code, UInt8.ofNat_toNat]
    rfl

theorem map_snd_charBytes (row : List (Channel × Char)) :
    (charBytes row).map Prod.snd = (row.map Prod.snd).flatMap String.utf8EncodeChar := by
  simp [charBytes, List.map_flatMap, List.flatMap_map, Function.comp_def]

theorem sentOn_charBytes (k : Channel) (row : List (Channel × Char)) :
    sentOn k (charBytes row) = (sentOn k row).flatMap String.utf8EncodeChar := by
  induction row with
  | nil => rfl
  | cons x row ih =>
    obtain ⟨j, c⟩ := x
    rw [charBytes_cons, sentOn_append, ih]
    by_cases same : j = k
    · subst same
      rw [sentOn_map_self, sentOn_cons_self, List.flatMap_cons]
    · rw [sentOn_map_of_ne same, sentOn_cons_of_ne same, List.nil_append]

theorem lead_of_chars {cs : List Char} {b : UInt8} {rest : List UInt8}
    (bytes : cs.flatMap String.utf8EncodeChar = b :: rest) : Text.Utf8.lead b ≠ .stray := by
  cases cs with
  | nil => cases bytes
  | cons c cs =>
    obtain ⟨b', more, head⟩ := List.exists_cons_of_ne_nil (String.utf8EncodeChar_ne_nil (c := c))
    rw [List.flatMap_cons, head, List.cons_append] at bytes
    obtain rfl := (List.cons.inj bytes).1
    exact Text.Utf8.lead_head_encodeChar head

theorem sentOn_behind {k : Channel} {c : Char} {cs : List Char} {texts : Channel → List Char}
    {onward : List (Channel × UInt8)} (written : texts k = c :: cs)
    (sent : ∀ i, sentOn i ((String.utf8EncodeChar c).map (k, ·) ++ onward) =
      (texts i).flatMap String.utf8EncodeChar) (i : Channel) :
    sentOn i onward = (Function.update texts k cs i).flatMap String.utf8EncodeChar := by
  have there := sent i
  rw [sentOn_append] at there
  by_cases same : i = k
  · subst same
    rw [sentOn_map_self, written, List.flatMap_cons] at there
    rw [Function.update_self]
    exact List.append_cancel_left there
  · rw [sentOn_map_of_ne (Ne.symm same), List.nil_append] at there
    rw [Function.update_of_ne same, there]

/-- Two streams of characters, read in pieces: either each character is whole where it stands, or
more characters are decoded than were written. -/
theorem whole_or_torn {marked : List (Channel × UInt8)} (texts : Channel → List Char)
    (sent : ∀ k, sentOn k marked = (texts k).flatMap String.utf8EncodeChar) :
    (∃ row, marked = charBytes row) ∨
      carried (marked.map Prod.snd) < 4 * (decode (marked.map Prod.snd)).length := by
  induction size : marked.length using Nat.strong_induction_on generalizing marked texts with
  | _ size ih =>
    subst size
    cases marked with
    | nil => exact .inl ⟨[], rfl⟩
    | cons x tail =>
      obtain ⟨k, b⟩ := x
      have here := sent k
      cases written : texts k with
      | nil => simp [written] at here
      | cons c cs =>
        rw [written, List.flatMap_cons] at here
        obtain ⟨onward, same⟩ | ⟨part, a, later, j, y, onward, torn, other, same⟩ :=
          split_stream here
        · -- The first character is whole; what follows is shorter.
          have rest := sentOn_behind written (same ▸ sent)
          have shorter : onward.length < ((k, b) :: tail).length := by
            have some := List.length_pos_iff.2 (String.utf8EncodeChar_ne_nil (c := c))
            rw [same, List.length_append, List.length_map]
            omega
          have bytes : ((k, b) :: tail).map Prod.snd =
              String.utf8EncodeChar c ++ onward.map Prod.snd := by
            rw [same, List.map_append, map_snd_map]
          obtain ⟨row, rfl⟩ | more := ih _ shorter _ rest rfl
          · exact .inl ⟨(k, c) :: row, same⟩
          · refine .inr ?_
            rw [bytes, Text.Utf8.carried_append, Text.Utf8.carried_encodeChar,
              Text.Utf8.decode_encodeChar, List.length_cons]
            omega
        · -- The other stream, which stands between two characters, breaks into this one.
          have begun : part ≠ [] := by
            rintro rfl
            exact other (Prod.mk.inj (List.cons.inj same).1).1.symm
          have leads : Text.Utf8.lead y ≠ .stray := by
            have there := sent j
            rw [same, sentOn_append, sentOn_map_of_ne (Ne.symm other), sentOn_cons_self,
              List.nil_append] at there
            exact lead_of_chars there.symm
          have bytes : ((k, b) :: tail).map Prod.snd = part ++ y :: onward.map Prod.snd := by
            rw [same, List.map_append, map_snd_map, List.map_cons]
          rw [bytes]
          exact .inr (Text.Utf8.carried_lt_torn begun torn leads _)

def marks (chunks : List Chunk) : List (Channel × UInt8) :=
  chunks.flatMap fun x => x.bytes.map (x.channel, ·)

theorem map_snd_marks (chunks : List Chunk) :
    (marks chunks).map Prod.snd = chunks.flatMap Chunk.bytes := by
  simp [marks, List.map_flatMap, Function.comp_def]

theorem toList_merged (chunks : List Chunk) :
    (merged chunks).toList = decode ((marks chunks).map Prod.snd) := by
  rw [merged, Text.Utf8.text, String.toList_ofList, map_snd_marks]

/-- The bytes of every character lie together, none of the other stream between them. -/
def Untorn (chunks : List Chunk) : Prop := ∃ row, marks chunks = charBytes row

theorem marks_append (chunks more : List Chunk) :
    marks (chunks ++ more) = marks chunks ++ marks more :=
  List.flatMap_append

theorem marks_singleton (x : Chunk) : marks [x] = x.bytes.map (x.channel, ·) :=
  List.flatMap_singleton _ x

def readSize : Nat := 8192

/-- The streams of a worker: what is still to be read of each, and what was read, read by read. -/
structure Pipes where
  left : Channel → List UInt8
  chunks : List Chunk := []

def textOn (A B : String) : Channel → String
  | .out => A
  | .err => B

namespace Pipes

def ofTexts (A B : String) : Pipes where
  left k := encode (textOn A B k)

/-- One read of a stream brings some of what is left of it. -/
inductive Read : Pipes → Pipes → Prop
  | some (p : Pipes) (k : Channel) (bytes rest : List UInt8) : p.left k = bytes ++ rest →
      bytes ≠ [] → bytes.length ≤ readSize →
      Read p ⟨Function.update p.left k rest, p.chunks ++ [⟨k, bytes⟩]⟩

abbrev Reads : Pipes → Pipes → Prop := Relation.ReflTransGen Read

/-- A worker that starts and closes its streams in time. Between any two questions they may be read;
a stream that was waited for has been read to its end. -/
def world : World interface Pipes where
  Answers
    | .spawn, p, x, p' => Reads p p' ∧ x = .ok ()
    | .drain k _, p, _, p' => Reads p p' ∧ p'.left k = []
    | .output, p, x, p' => Reads p p' ∧ x = p'.chunks
    | _, p, _, p' => Reads p p'

def Keep (written : Channel → List UInt8) (p : Pipes) : Prop :=
  ∀ k, sentOn k (marks p.chunks) ++ p.left k = written k

variable {written : Channel → List UInt8} {p p' : Pipes}

theorem keep_ofTexts (A B : String) : Keep (ofTexts A B).left (ofTexts A B) := fun _ => rfl

theorem Keep.read (keep : Keep written p) (read : Read p p') : Keep written p' := by
  intro k
  cases read with
  | some j bytes rest split _ _ =>
    rw [← keep k, marks_append, marks_singleton, sentOn_append, List.append_assoc]
    by_cases same : j = k
    · subst same
      simp only [sentOn_map_self, Function.update_self, split]
    · simp only [sentOn_map_of_ne same, Function.update_of_ne (Ne.symm same), List.nil_append]

theorem Keep.reads (keep : Keep written p) (reads : Reads p p') : Keep written p' := by
  induction reads with
  | refl => exact keep
  | tail _ read ih => exact ih.read read

theorem drained_of_read {k : Channel} (drained : p.left k = []) (read : Read p p') :
    p'.left k = [] := by
  cases read with
  | some j bytes rest split some _ =>
    by_cases same : k = j
    · subst same
      rw [drained] at split
      exact absurd (List.append_eq_nil_iff.1 split.symm).1 some
    · simpa [Function.update_of_ne same] using drained

theorem drained_of_reads {k : Channel} (drained : p.left k = []) (reads : Reads p p') :
    p'.left k = [] := by
  induction reads with
  | refl => exact drained
  | tail _ read ih => exact drained_of_read ih read

theorem reads_of_answers {q : Ask} {x : q.Answer} (answered : world.Answers q p x p') :
    Reads p p' := by
  cases q
  case spawn | drain | output => exact answered.1
  all_goals exact answered

theorem keeps_any {α : Type} (program : Routine α) (keep : Keep written p) :
    world.Keeps (Keep written) program (fun _ p' => Keep written p') p := by
  induction program generalizing p with
  | done a => exact keep
  | ask q next ih =>
    refine ⟨trivial, fun x p' answered => ?_⟩
    have later := keep.reads (reads_of_answers answered)
    exact ⟨later, ih x later⟩

theorem keeps_supervise (settings : Settings) (c : Case) (keep : Keep written p) :
    world.Keeps (Keep written) (supervise settings c)
      (fun r p' => r.output = merged p'.chunks ∧ ∀ k, sentOn k (marks p'.chunks) = written k)
      p := by
  refine ⟨trivial, fun (x : Except SystemError Unit) p₁ answered => ?_⟩
  obtain ⟨reads, rfl⟩ : Reads p p₁ ∧ x = .ok () := answered
  have keep₁ := keep.reads reads
  refine ⟨keep₁, World.Keeps.bind (p := finish settings.grace) (keeps_any _ keep₁)
    fun status p₂ keep₂ => ⟨trivial, fun _ p₃ out => ?_⟩⟩
  have keep₃ := keep₂.reads out.1
  refine ⟨keep₃, trivial, fun _ p₄ err => ?_⟩
  have keep₄ := keep₃.reads err.1
  refine ⟨keep₄, trivial, fun (read : List Chunk) p₅ answered => ?_⟩
  obtain ⟨reads, rfl⟩ : Reads p₄ p₅ ∧ read = p₅.chunks := answered
  have keep₅ := keep₄.reads reads
  refine ⟨keep₅, rfl, fun k => ?_⟩
  have drained : p₅.left k = [] := by
    cases k with
    | out => exact drained_of_reads (drained_of_reads out.2 err.1) reads
    | err => exact drained_of_reads err.2 reads
  simpa [drained] using keep₅ k

theorem reads_of_chunks {chunks : List Chunk}
    (sized : ∀ x ∈ chunks, x.bytes ≠ [] ∧ x.bytes.length ≤ readSize)
    (left : ∀ k, p.left k = sentOn k (marks chunks)) :
    ∃ p', Reads p p' ∧ (∀ k, p'.left k = []) ∧ p'.chunks = p.chunks ++ chunks := by
  induction chunks generalizing p with
  | nil => exact ⟨p, .refl, left, (List.append_nil _).symm⟩
  | cons x chunks ih =>
    obtain ⟨⟨some, few⟩, later⟩ := List.forall_mem_cons.1 sized
    have cut (k : Channel) : sentOn k (marks (x :: chunks)) =
        sentOn k (x.bytes.map (x.channel, ·)) ++ sentOn k (marks chunks) := sentOn_append k _ _
    have here : p.left x.channel = x.bytes ++ sentOn x.channel (marks chunks) := by
      rw [left, cut, sentOn_map_self]
    have read := Read.some p x.channel x.bytes _ here some few
    have onward (k : Channel) : Function.update p.left x.channel
        (sentOn x.channel (marks chunks)) k = sentOn k (marks chunks) := by
      by_cases same : k = x.channel
      · rw [same, Function.update_self]
      · rw [Function.update_of_ne same, left, cut, sentOn_map_of_ne (Ne.symm same), List.nil_append]
    obtain ⟨p', reads, drained, all⟩ := ih later (p := ⟨_, p.chunks ++ [x]⟩) onward
    exact ⟨p', reads.head read, drained, by rw [all, List.append_assoc, List.singleton_append]⟩

theorem exists_run (settings : Settings) (c : Case) (status : Status) {A B : String}
    (chunks : List Chunk) (sized : ∀ x ∈ chunks, x.bytes ≠ [] ∧ x.bytes.length ≤ readSize)
    (sent : ∀ k, sentOn k (marks chunks) = encode (textOn A B k)) :
    ∃ t p, world.Runs (supervise settings c) (ofTexts A B) t ⟨c, merged chunks, status⟩ p ∧
      p.chunks = chunks := by
  obtain ⟨p, reads, drained, rfl⟩ := reads_of_chunks (p := ofTexts A B) sized fun k => (sent k).symm
  have spawned : world.Answers .spawn (ofTexts A B) (.ok ()) p := ⟨reads, rfl⟩
  have exited : world.Answers .exitOrInterrupt p (some status) p := Relation.ReflTransGen.refl
  have closed (k : Channel) : world.Answers (.drain k settings.drain) p () p :=
    ⟨Relation.ReflTransGen.refl, drained k⟩
  have read : world.Answers .output p p.chunks p := ⟨Relation.ReflTransGen.refl, rfl⟩
  exact ⟨_, p, .ask spawned (.ask exited (.ask (closed .out) (.ask (closed .err)
    (.ask read (.refl _ _))))), rfl⟩

end Pipes

section Sent

variable {A B : String} {chunks : List Chunk}
  (sent : ∀ k, sentOn k (marks chunks) = encode (textOn A B k))

include sent

theorem merges_bytes : Merges (encode A) (encode B) (chunks.flatMap Chunk.bytes) := by
  have merges := merges_marked (marks chunks)
  rwa [sent .out, sent .err, map_snd_marks] at merges

theorem carried_chunks :
    carried (chunks.flatMap Chunk.bytes) = 4 * (A.toList.length + B.toList.length) := by
  have all : carried (chunks.flatMap Chunk.bytes) = carried (encode A ++ encode B) :=
    ((merges_bytes sent).perm.map _).sum_eq
  rw [all, Text.Utf8.carried_append, encode, encode, Text.Utf8.carried_encodeChars,
    Text.Utf8.carried_encodeChars, Nat.mul_add]

theorem merges_of_untorn (untorn : Untorn chunks) :
    Merges A.toList B.toList (merged chunks).toList := by
  obtain ⟨row, whole⟩ := untorn
  have text (k : Channel) : sentOn k row = (textOn A B k).toList := by
    apply Text.Utf8.encodeChars_injective
    rw [← sentOn_charBytes, ← whole, sent k, encode]
  have merges := merges_marked row
  rw [text .out, text .err] at merges
  rwa [toList_merged, whole, map_snd_charBytes, Text.Utf8.decode_encodeChars]

theorem untorn_of_merges (merges : Merges A.toList B.toList (merged chunks).toList) :
    Untorn chunks := by
  obtain whole | more := whole_or_torn (fun k => (textOn A B k).toList) sent
  · exact whole
  · have length := merges.length_eq
    rw [map_snd_marks, carried_chunks sent, ← map_snd_marks, ← toList_merged] at more
    omega

theorem untorn_of_ascii (ascii : ∀ ch ∈ A.toList ++ B.toList, ch.toNat < 128) : Untorn chunks := by
  refine whole_of_ascii fun x among => ?_
  obtain ⟨k, b⟩ := x
  have written : b ∈ encode (textOn A B k) := sent k ▸ mem_sentOn.2 among
  obtain ⟨ch, listed, byte⟩ := List.mem_flatMap.1 written
  have small : ch.toNat < 128 := by
    cases k with
    | out => exact ascii ch (List.mem_append_left _ listed)
    | err => exact ascii ch (List.mem_append_right _ listed)
  rw [Text.Utf8.encodeChar_ascii small, List.mem_singleton] at byte
  rw [byte, UInt8.toNat_ofNat_of_lt' (small.trans (by decide))]
  exact small

end Sent

/-- What a worker writes to its streams before it closes them is read whole: byte for byte the
output is a merge of both texts, taken for text as it stands. Its characters are a merge of theirs
exactly if no character is torn, so always if all of them are ASCII. -/
theorem output_merges_iff (settings : Settings) (c : Case) {A B : String}
    {t : List (Event interface)} {r : Result} {p : Pipes}
    (run : Pipes.world.Runs (supervise settings c) (Pipes.ofTexts A B) t r p) :
    r.output = merged p.chunks ∧
    Merges (encode A) (encode B) (p.chunks.flatMap Chunk.bytes) ∧
    (Merges A.toList B.toList r.output.toList ↔ Untorn p.chunks) ∧
    ((∀ ch ∈ A.toList ++ B.toList, ch.toNat < 128) →
      Merges A.toList B.toList r.output.toList) := by
  obtain ⟨shown, sent⟩ :=
    (Pipes.keeps_supervise settings c (Pipes.keep_ofTexts A B)).runs run
  rw [shown]
  refine ⟨rfl, merges_bytes sent, ⟨untorn_of_merges sent, merges_of_untorn sent⟩, fun ascii => ?_⟩
  exact merges_of_untorn sent (untorn_of_ascii sent ascii)

def cutReads : List Chunk := [⟨.out, [0xC3]⟩, ⟨.out, [0xA9]⟩, ⟨.err, [0x78]⟩]

theorem output_merges_iff_cut : ∃ t r p,
    Pipes.world.Runs (supervise {} ⟨"flow", "cut"⟩) (Pipes.ofTexts "é" "x") t r p ∧
      p.chunks = cutReads ∧ Merges "é".toList "x".toList r.output.toList := by
  obtain ⟨t, p, run, read⟩ := Pipes.exists_run {} ⟨"flow", "cut"⟩ (some 0) (A := "é") (B := "x")
    cutReads (by decide) fun k => by cases k <;> decide +kernel
  refine ⟨t, _, p, run, read, (output_merges_iff {} ⟨"flow", "cut"⟩ run).2.2.1.2 ?_⟩
  exact ⟨[(.out, 'é'), (.err, 'x')], by rw [read]; decide +kernel⟩

def tornReads : List Chunk := [⟨.out, [0xC3]⟩, ⟨.err, [0x78]⟩, ⟨.out, [0xA9]⟩]

/-- Of two characters that were written, one is shown as two replacements. -/
theorem torn_character_replaced : ∃ t r p,
    Pipes.world.Runs (supervise {} ⟨"flow", "torn"⟩) (Pipes.ofTexts "é" "x") t r p ∧
      p.chunks = tornReads ∧ r.output = "\ufffdx\ufffd" ∧
      ¬ Merges "é".toList "x".toList r.output.toList := by
  obtain ⟨t, p, run, read⟩ := Pipes.exists_run {} ⟨"flow", "torn"⟩ (some 0) (A := "é") (B := "x")
    tornReads (by decide) fun k => by cases k <;> decide +kernel
  have decoded : decode [0xC3, 0x78, 0xA9] = ['\ufffd', 'x', '\ufffd'] := by
    simp only [decode, Text.Utf8.decodeFrom, Text.Utf8.decodeFrom.begin, Text.Utf8.lead]
    rfl
  have shown : merged tornReads = "\ufffdx\ufffd" := congrArg String.ofList decoded
  refine ⟨t, _, p, run, read, shown, fun merges => ?_⟩
  have length := merges.length_eq
  rw [shown] at length
  exact absurd length (by decide +kernel)

end TestRig.Suite.Worker
