import SqlGateway.Proofs.Json.Alike
import SqlGateway.Proofs.Json.Giving

/-!
# Reading back what is printed

Whatever the layout, what is read of the text of a value is alike to the value
(`alike_of_readBytes`).  The text is read if the numbers of the value are integers and the value
has no more levels than a reader follows, and then what is read is the value in order
(`readBytes_text`).

The proof reads a value off the front of a longer text, since that is how its items and members
are read (`gives_text`, `gives_items`, `gives_members`).  What follows must not go on with a
number, and what follows an item or a member never does.
-/

namespace SqlGateway.Json

open Utf8 (ofChars)

/-! ## What follows a value -/

theorem isSpace_of_blank {cs : List Char} (blank : Blank cs) :
    ∀ b ∈ ofChars cs, isSpace b = true := by
  intro b hb
  obtain ⟨c, hc, hb⟩ := List.mem_flatMap.mp hb
  rcases blank c hc with rfl | rfl <;> cases List.mem_singleton.mp hb <;> rfl

theorem skipSpace_blank {cs : List Char} (blank : Blank cs) (bs : Bytes) :
    skipSpace (ofChars cs ++ bs) = skipSpace bs :=
  skipSpace_append bs (isSpace_of_blank blank)

/-- Blanks do not go on with a number. -/
theorem closed_blank {cs : List Char} (blank : Blank cs) {bs : Bytes} (closed : Closed bs) :
    Closed (ofChars cs ++ bs) := by
  cases cs with
  | nil => exact closed
  | cons c cs =>
      rcases blank c (List.mem_cons_self ..) with rfl | rfl <;>
        exact ⟨rfl, by decide, rfl⟩

theorem closed_of_blank {cs : List Char} (blank : Blank cs) : Closed (ofChars cs) := by
  have closed : Closed (ofChars cs ++ []) := closed_blank blank trivial
  rwa [List.append_nil] at closed

theorem closed_items (l : Layout) (level : Nat) (vs : List Json) (rest : Bytes) :
    Closed (ofChars (l.items level vs) ++ rest) := by
  cases vs with
  | nil =>
      rw [Layout.items, Utf8.ofChars_append, List.append_assoc]
      exact closed_blank (l.gap_blank level) ⟨rfl, by decide, rfl⟩
  | cons v vs => exact ⟨rfl, by decide, rfl⟩

theorem closed_members (l : Layout) (level : Nat) (ms : List (String × Json)) (rest : Bytes) :
    Closed (ofChars (l.members level ms) ++ rest) := by
  cases ms with
  | nil =>
      rw [Layout.members, Utf8.ofChars_append, List.append_assoc]
      exact closed_blank (l.gap_blank level) ⟨rfl, by decide, rfl⟩
  | cons m ms => exact ⟨rfl, by decide, rfl⟩

/-! ## The bytes of a list and of an object -/

namespace Layout

variable (l : Layout) (level : Nat) (k : String) (v : Json) (vs : List Json)
  (ms : List (String × Json)) (rest : Bytes)

theorem bytes_array : ofChars (l.text level (.array (v :: vs))) ++ rest =
    91 :: (ofChars (l.gap (level + 1)) ++
      (ofChars (l.text (level + 1) v) ++ (ofChars (l.items level vs) ++ rest))) := by
  simp only [text, Utf8.ofChars_append, Utf8.ofChars_cons, List.append_assoc]
  rfl

theorem bytes_items : ofChars (l.items level (v :: vs)) ++ rest =
    44 :: (ofChars (l.gap (level + 1)) ++
      (ofChars (l.text (level + 1) v) ++ (ofChars (l.items level vs) ++ rest))) := by
  simp only [items, Utf8.ofChars_append, Utf8.ofChars_cons, List.append_assoc]
  rfl

theorem bytes_object : ofChars (l.text level (.object ((k, v) :: ms))) ++ rest =
    123 :: (ofChars (l.gap (level + 1)) ++ 34 ::
      (ofChars (k.toList.flatMap escapeChar ++ ['"']) ++ 58 ::
        (ofChars l.colon ++
          (ofChars (l.text (level + 1) v) ++ (ofChars (l.members level ms) ++ rest))))) := by
  simp only [text, quoted, Utf8.ofChars_append, Utf8.ofChars_cons, List.append_assoc,
    List.cons_append]
  rfl

theorem bytes_members : ofChars (l.members level ((k, v) :: ms)) ++ rest =
    44 :: (ofChars (l.gap (level + 1)) ++ 34 ::
      (ofChars (k.toList.flatMap escapeChar ++ ['"']) ++ 58 ::
        (ofChars l.colon ++
          (ofChars (l.text (level + 1) v) ++ (ofChars (l.members level ms) ++ rest))))) := by
  simp only [members, quoted, Utf8.ofChars_append, Utf8.ofChars_cons, List.append_assoc,
    List.cons_append]
  rfl

end Layout

/-! ## Values -/

/-- What is printed for a number begins with no blank and with no bracket. -/
theorem head_number (n : Number) :
    ∃ b bs, ofChars n.text = b :: bs ∧ isSpace b = false ∧ b ≠ 93 := by
  have spelled {cs : List Char} (h : NumberText cs) :
      ∃ b bs, ofChars cs = b :: bs ∧ isSpace b = false ∧ b ≠ 93 := by
    obtain ⟨b, bs, bytes, first⟩ := head_numberText h
    refine ⟨b, bs, bytes, ?_⟩
    rcases first with rfl | digit
    · exact ⟨rfl, by decide⟩
    · have range := isDigit_iff.mp digit
      refine ⟨?_, ?_⟩
      · simp [isSpace, ← UInt8.toNat_inj]
        omega
      · rintro rfl
        cases digit
  cases n with
  | integer n => exact spelled (numberText_intText n.val)
  | float x =>
      rcases floatText_cases x with ⟨-, null⟩ | ⟨-, text⟩
      · rw [Number.text, null]
        exact ⟨110, _, rfl, rfl, by decide⟩
      · exact spelled text

/-- The text of a value begins with no blank and with no bracket that closes a list. -/
theorem head_text (l : Layout) (level : Nat) (v : Json) :
    ∃ b bs, ofChars (l.text level v) = b :: bs ∧ isSpace b = false ∧ b ≠ 93 := by
  cases v with
  | null => exact ⟨110, _, rfl, rfl, by decide⟩
  | bool b =>
      cases b with
      | true => exact ⟨116, _, rfl, rfl, by decide⟩
      | false => exact ⟨102, _, rfl, rfl, by decide⟩
  | number n => exact head_number n
  | string s => exact ⟨34, _, rfl, rfl, by decide⟩
  | array vs =>
      cases vs with
      | nil => exact ⟨91, _, rfl, rfl, by decide⟩
      | cons v vs => exact ⟨91, _, rfl, rfl, by decide⟩
  | object ms =>
      cases ms with
      | nil => exact ⟨123, _, rfl, rfl, by decide⟩
      | cons m ms => exact ⟨123, _, rfl, rfl, by decide⟩

/-- Behind a gap, the next value is seen. -/
theorem skipSpace_text (l : Layout) (level : Nat) {cs : List Char} (blank : Blank cs) (v : Json)
    (rest : Bytes) :
    ∃ b bs, skipSpace (ofChars cs ++ (ofChars (l.text level v) ++ rest)) = b :: bs ∧ b ≠ 93 ∧
      skipSpace (b :: bs) = b :: bs ∧ ofChars (l.text level v) ++ rest = b :: bs := by
  obtain ⟨b, bs, bytes, noSpace, noBracket⟩ := head_text l level v
  rw [skipSpace_blank blank, bytes, List.cons_append, skipSpace_of_not_space noSpace]
  exact ⟨b, bs ++ rest, rfl, noBracket, skipSpace_of_not_space noSpace, rfl⟩

/-- A reader of so many levels reads a value back: its numbers are integers, and it has no more
levels. -/
def Readable (d : Nat) (v : Json) : Prop := v.Integral ∧ v.depth ≤ d

/-- `Readable` for every item of a list. -/
def ReadableItems (d : Nat) (vs : List Json) : Prop := IntegralItems vs ∧ depthItems vs ≤ d

/-- `Readable` for the value of every member. -/
def ReadableMembers (d : Nat) (ms : Members) : Prop := IntegralMembers ms ∧ depthMembers ms ≤ d

section Readable

variable {d : Nat} {k : String} {v : Json} {vs : List Json} {ms : Members}

theorem readable_array : Readable (d + 1) (.array vs) ↔ ReadableItems d vs :=
  and_congr_right fun _ => Nat.succ_le_succ_iff

theorem readable_object : Readable (d + 1) (.object ms) ↔ ReadableMembers d ms :=
  and_congr_right fun _ => Nat.succ_le_succ_iff

theorem readableItems_cons : ReadableItems d (v :: vs) ↔ Readable d v ∧ ReadableItems d vs :=
  (and_congr_right fun _ => Nat.max_le).trans and_and_and_comm

theorem readableMembers_cons :
    ReadableMembers d ((k, v) :: ms) ↔ Readable d v ∧ ReadableMembers d ms :=
  (and_congr_right fun _ => Nat.max_le).trans and_and_and_comm

/-- A list or an object takes a level. -/
theorem Readable.pos (h : Readable d v) (deep : 0 < v.depth) : 0 < d :=
  Nat.lt_of_lt_of_le deep h.2

end Readable

/-- What is read of the text of a double. -/
theorem gives_float {inner : Option (Scan Json)} {d : Nat} {x : Float} {bs rest : Bytes}
    (closed : Closed rest) (h : skipSpace bs = ofChars (Number.floatText x) ++ rest) :
    Gives (Readable d (.number (.float x))) (valueWith inner) bs rest
      (Alike (.number (.float x))) := by
  rcases floatText_cases x with ⟨none, text⟩ | ⟨some, text⟩
  · rw [text] at h
    refine (takes_word (.head _) h).gives ?_
    rw [Alike, if_pos none]
  · obtain ⟨b, front, bytes, first⟩ := head_numberText text
    have stops := stops_numeral text closed
    rw [bytes] at h stops
    have noInteger : Readable d (.number (.float x)) → False := fun readable => readable.1
    refine ((gives_number h first stops.gives).mono noInteger).imp fun w read => ?_
    obtain ⟨n, shown, -⟩ := read
    rw [Alike, if_neg some]
    exact ⟨n, shown⟩

mutual

/-- What is read of the text of a value is alike to it, and something is read if the value can be
read back. -/
theorem gives_text (l : Layout) : ∀ (v : Json) {level d : Nat} {bs rest : Bytes}, Closed rest →
    skipSpace bs = ofChars (l.text level v) ++ rest →
      Gives (Readable d v) (value d) bs rest (Alike v)
  | .null, level, d, bs, rest, _, h => by
      obtain ⟨inner, reader, -⟩ := value_inner d
      exact reader ▸ (takes_word (.head _) h).gives rfl
  | .bool true, level, d, bs, rest, _, h => by
      obtain ⟨inner, reader, -⟩ := value_inner d
      exact reader ▸ (takes_word (.tail _ (.head _)) h).gives rfl
  | .bool false, level, d, bs, rest, _, h => by
      obtain ⟨inner, reader, -⟩ := value_inner d
      exact reader ▸ (takes_word (.tail _ (.tail _ (.head _))) h).gives rfl
  | .number (.integer n), level, d, bs, rest, closed, h => by
      obtain ⟨inner, reader, -⟩ := value_inner d
      obtain ⟨b, front, bytes, first⟩ := head_numberText (numberText_intText n.val)
      have text : ofChars (l.text level (.number (.integer n))) = b :: front := bytes
      have read := takes_intText n closed
      rw [bytes] at read
      rw [text] at h
      exact reader ▸ (gives_number h first (read.gives (P := (· = .integer n)) rfl)).imp
        fun _ ⟨_, shown, same⟩ => shown.trans (congrArg Json.number same)
  | .number (.float x), level, d, bs, rest, closed, h => by
      obtain ⟨inner, reader, -⟩ := value_inner d
      exact reader ▸ gives_float closed h
  | .string s, level, d, bs, rest, _, h => by
      obtain ⟨inner, reader, -⟩ := value_inner d
      exact reader ▸ (takes_string h (takes_quoted s rest)).gives rfl
  | .array [], level, d, bs, rest, _, h => by
      obtain ⟨inner, reader, followed, -⟩ := value_inner d
      exact reader ▸ gives_array h (fun must => followed (must.pos (Nat.succ_pos _))) fun item _ =>
        (takes_items_nil (skipSpace_of_not_space rfl)).gives rfl
  | .array (v :: vs), level, d, bs, rest, _, h => by
      obtain ⟨inner, reader, followed, within⟩ := value_inner d
      -- The byte that decides whether an item follows is also the first of that item.
      obtain ⟨b, front, skip, noBracket, again, bytes⟩ := skipSpace_text l (level + 1)
        (l.gap_blank (level + 1)) v (ofChars (l.items level vs) ++ rest)
      rw [Layout.bytes_array] at h
      refine reader ▸ gives_array h (fun must => followed (must.pos (Nat.succ_pos _)))
        fun item some => ?_
      obtain ⟨d', rfl, rfl⟩ := within item some
      exact (gives_items_cons (nextItem_first skip noBracket)
        (gives_text l v (closed_items l level vs rest) (again.trans bytes.symm))
        (gives_items l vs)).mono fun must => readableItems_cons.mp (readable_array.mp must)
  | .object [], level, d, bs, rest, _, h => by
      obtain ⟨inner, reader, followed, -⟩ := value_inner d
      exact reader ▸ gives_object h (fun must => followed (must.pos (Nat.succ_pos _))) fun item _ =>
        (takes_members_nil (skipSpace_of_not_space rfl)).gives rfl
  | .object ((k, v) :: ms), level, d, bs, rest, _, h => by
      obtain ⟨inner, reader, followed, within⟩ := value_inner d
      obtain ⟨b, front, skip, noBracket, again, bytes⟩ := skipSpace_text l (level + 1)
        l.colon_blank v (ofChars (l.members level ms) ++ rest)
      rw [Layout.bytes_object] at h
      refine reader ▸ gives_object h (fun must => followed (must.pos (Nat.succ_pos _)))
        fun item some => ?_
      obtain ⟨d', rfl, rfl⟩ := within item some
      exact (gives_members_cons
        (nextMember_first ((skipSpace_blank (l.gap_blank (level + 1)) _).trans
          (skipSpace_of_not_space rfl)))
        (takes_quoted k _)
        (gives_text l v (closed_members l level ms rest) (skip.trans bytes.symm))
        (gives_members l ms)).mono fun must => readableMembers_cons.mp (readable_object.mp must)

/-- What is read of the items of a list that are not its first. -/
theorem gives_items (l : Layout) : ∀ (vs : List Json) {level d : Nat} {rest : Bytes},
    Gives (ReadableItems d vs) (items (value d) false) (ofChars (l.items level vs) ++ rest) rest
      (AlikeItems vs)
  | [], level, d, rest => by
      rw [Layout.items, Utf8.ofChars_append, List.append_assoc]
      exact (takes_items_nil ((skipSpace_blank (l.gap_blank level) _).trans
        (skipSpace_of_not_space rfl))).gives rfl
  | v :: vs, level, d, rest => by
      obtain ⟨b, front, skip, noBracket, again, bytes⟩ := skipSpace_text l (level + 1)
        (l.gap_blank (level + 1)) v (ofChars (l.items level vs) ++ rest)
      rw [Layout.bytes_items]
      exact (gives_items_cons (nextItem_comma skip noBracket)
        (gives_text l v (closed_items l level vs rest) (again.trans bytes.symm))
        (gives_items l vs)).mono readableItems_cons.mp

/-- What is read of the members of an object that are not its first. -/
theorem gives_members (l : Layout) : ∀ (ms : List (String × Json)) {level d : Nat} {rest : Bytes},
    Gives (ReadableMembers d ms) (members (value d) false) (ofChars (l.members level ms) ++ rest)
      rest (AlikeMembers ms)
  | [], level, d, rest => by
      rw [Layout.members, Utf8.ofChars_append, List.append_assoc]
      exact (takes_members_nil ((skipSpace_blank (l.gap_blank level) _).trans
        (skipSpace_of_not_space rfl))).gives rfl
  | (k, v) :: ms, level, d, rest => by
      obtain ⟨b, front, skip, noBracket, again, bytes⟩ := skipSpace_text l (level + 1)
        l.colon_blank v (ofChars (l.members level ms) ++ rest)
      rw [Layout.bytes_members]
      exact (gives_members_cons
        (nextMember_comma ((skipSpace_blank (l.gap_blank (level + 1)) _).trans
          (skipSpace_of_not_space rfl)))
        (takes_quoted k _)
        (gives_text l v (closed_members l level ms rest) (skip.trans bytes.symm))
        (gives_members l ms)).mono readableMembers_cons.mp

end

/-! ## Documents -/

section Documents

variable {v : Json}

/-- What a whole document that holds the text of a value is read as, in any layout and with blanks
behind it. -/
theorem gives_document (l : Layout) {behind : List Char} (blank : Blank behind) (v : Json) :
    Gives (Readable depthLimit v) (value depthLimit) (ofChars (l.text 0 v) ++ ofChars behind)
      (ofChars behind) (Alike v) := by
  obtain ⟨b, bs, bytes, noSpace, -⟩ := head_text l 0 v
  have front : skipSpace (ofChars (l.text 0 v) ++ ofChars behind) =
      ofChars (l.text 0 v) ++ ofChars behind := by
    rw [bytes, List.cons_append, skipSpace_of_not_space noSpace]
  exact gives_text l v (closed_of_blank blank) front

/-- Whatever is read of the text of a value, in any layout and with blanks behind it, is alike
to the value. -/
theorem alike_of_readBytes (l : Layout) {behind : List Char} (blank : Blank behind) {w : Json}
    (read : readBytes (ofChars (l.text 0 v) ++ ofChars behind) = .ok w) : Alike v w := by
  obtain ⟨t, ht, rfl⟩ := runScan_inv read
  exact ((gives_document l blank v).given t ht).2

/-- A value is read back from its text in any layout, which blanks may follow. -/
theorem readBytes_text_blank (l : Layout) {behind : List Char} (blank : Blank behind)
    (integral : v.Integral) (shallow : v.depth ≤ depthLimit) :
    readBytes (ofChars (l.text 0 v) ++ ofChars behind) = .ok v.sorted := by
  have document := gives_document l blank v
  obtain ⟨t, ht⟩ := document.taken ⟨integral, shallow⟩
  obtain ⟨left, alike⟩ := document.given t ht
  have nothing : skipSpace t.rest = [] := by
    have skip := skipSpace_blank blank []
    rwa [List.append_nil, ← left] at skip
  rw [readBytes, runScan, ht]
  simp only [Except.bind, finish, nothing, alike.eq_sorted integral]

/-- A value is read back from its text in any layout. -/
theorem readBytes_text (l : Layout) (integral : v.Integral) (shallow : v.depth ≤ depthLimit) :
    readBytes (ofChars (l.text 0 v)) = .ok v.sorted := by
  have read : readBytes (ofChars (l.text 0 v) ++ ofChars []) = .ok v.sorted :=
    readBytes_text_blank l (List.forall_mem_nil _) integral shallow
  rwa [Utf8.ofChars_nil, List.append_nil] at read

/-- A value is read back from its text on one line. -/
theorem readBytes_compact (integral : v.Integral) (shallow : v.depth ≤ depthLimit) :
    readBytes (Utf8.encode v.compact) = .ok v.sorted := by
  rw [compact, Utf8.encode_ofList, ← Layout.text_compact 0]
  exact readBytes_text .compact integral shallow

/-- A value is read back from its text over several lines. -/
theorem readBytes_pretty (integral : v.Integral) (shallow : v.depth ≤ depthLimit) :
    readBytes (Utf8.encode v.pretty) = .ok v.sorted := by
  rw [pretty, Utf8.encode_ofList, ← Layout.text_pretty 0]
  exact readBytes_text .pretty integral shallow

end Documents

end SqlGateway.Json
