import TileEngine.Proofs.ByteStream.Contract
import TileEngine.Proofs.Text.Utf8

/-!
Lines read one after the other. A call reads on behind the last one until a line feed, the end, or
as many bytes as a line may have; carriage returns are passed over and do not count. So the calls
share the content out among them: each takes what the one before has left, and keeps all of it but
the line feed and the carriage returns. Where every line of a text is shorter than the bound, the
calls up to the end give exactly the lines of the text.
-/

namespace TileEngine

namespace Text

/-- The pieces of a text between line feeds; behind a line feed at the end there is none. -/
def pieces (cs : List Char) : List (List Char) :=
  let parts := cs.splitOn '\n'
  if parts.getLast? = some [] then parts.dropLast else parts

/-- The lines of a text: its pieces without their carriage returns. -/
def linesOf (text : String) : List String :=
  (pieces text.toList).map fun piece => String.ofList (piece.filter (· != '\r'))

theorem pieces_feed {piece : List Char} (no_feed : '\n' ∉ piece) (rest : List Char) :
    pieces (piece ++ '\n' :: rest) = piece :: pieces rest := by
  have some_part : rest.splitOn '\n' ≠ [] := List.splitOn_ne_nil _ _
  rw [pieces, List.splitOn_append_cons_self_of_not_mem no_feed, pieces,
    List.getLast?_cons_of_ne_nil some_part, List.dropLast_cons_of_ne_nil some_part]
  split <;> rfl

theorem pieces_last {piece : List Char} (no_feed : '\n' ∉ piece) (some_char : piece ≠ []) :
    pieces piece = [piece] := by
  rw [pieces, List.splitOn_eq_singleton no_feed]
  simp [some_char]

end Text

namespace ByteStream

/-- A byte that belongs to a line: neither a line feed nor a carriage return. -/
def isKept (b : UInt8) : Bool := b != 10 && b != 13

/-- Takes a line off the front: the bytes kept, of which there are no more than there is room for,
and what is left. -/
def takeLine : (room : Nat) → List UInt8 → List UInt8 × List UInt8
  | 0, bytes => ([], bytes)
  | _, [] => ([], [])
  | room + 1, b :: rest =>
    if b = 10 then ([], rest)
    else if b = 13 then takeLine (room + 1) rest
    else (b :: (takeLine room rest).1, (takeLine room rest).2)

/-- Calls one after the other until the end, none of which is refused: what they give, and the
stream after them. -/
inductive UntilEnd {α : Type} (read : ByteStream → Except StreamError α × ByteStream) :
    ByteStream → List α → ByteStream → Prop
  | ended {s : ByteStream} (atEnd : s.atEnd = true) : UntilEnd read s [] s
  | next {s t u : ByteStream} {a : α} {rest : List α} (more : s.atEnd = false)
      (given : read s = (.ok a, t)) (later : UntilEnd read t rest u) :
      UntilEnd read s (a :: rest) u

theorem UntilEnd.unique {α : Type} {read : ByteStream → Except StreamError α × ByteStream}
    {s t t' : ByteStream} {l l' : List α} (one : UntilEnd read s l t)
    (other : UntilEnd read s l' t') : l = l' ∧ t = t' := by
  induction one generalizing l' t' with
  | ended atEnd =>
    cases other with
    | ended => exact ⟨rfl, rfl⟩
    | next more => rw [atEnd] at more; contradiction
  | next more given later ih =>
    cases other with
    | ended atEnd => rw [atEnd] at more; contradiction
    | next _ given' later' =>
      rw [given] at given'
      cases given'
      obtain ⟨rfl, rfl⟩ := ih later'
      exact ⟨rfl, rfl⟩

/-! ## One line -/

@[simp] theorem takeLine_nil (room : Nat) : takeLine room [] = ([], []) := by
  cases room <;> rfl

@[simp] theorem takeLine_zero (bytes : List UInt8) : takeLine 0 bytes = ([], bytes) := by
  rw [takeLine]

/-- A line takes bytes off the front and keeps all of them but line feeds and carriage returns; with
room for a byte it takes at least one. -/
theorem takeLine_parts (room : Nat) (bytes : List UInt8) :
    ∃ front, bytes = front ++ (takeLine room bytes).2 ∧
      (takeLine room bytes).1 = front.filter isKept ∧ (0 < room → bytes ≠ [] → front ≠ []) := by
  fun_induction takeLine room bytes with
  | case1 bytes => exact ⟨[], rfl, rfl, fun room => absurd room (Nat.lt_irrefl 0)⟩
  | case2 => exact ⟨[], rfl, rfl, fun _ bytes => bytes⟩
  | case3 room rest => exact ⟨[10], rfl, rfl, fun _ _ => List.cons_ne_nil _ _⟩
  | case4 room rest other ih =>
    obtain ⟨front, parts, kept, -⟩ := ih
    exact ⟨13 :: front, congrArg (13 :: ·) parts, kept, fun _ _ => List.cons_ne_nil _ _⟩
  | case5 room b rest not_feed not_return ih =>
    obtain ⟨front, parts, kept, -⟩ := ih
    have keeps : isKept b = true := by simp [isKept, not_feed, not_return]
    refine ⟨b :: front, congrArg (b :: ·) parts, ?_, fun _ _ => List.cons_ne_nil _ _⟩
    rw [List.filter_cons, if_pos keeps, ← kept]

theorem length_takeLine_le (room : Nat) (bytes : List UInt8) :
    (takeLine room bytes).1.length ≤ room := by
  fun_induction takeLine room bytes with
  | case1 => exact Nat.le_refl _
  | case2 => exact Nat.zero_le _
  | case3 => exact Nat.zero_le _
  | case4 room rest other ih => exact ih
  | case5 room b rest not_feed not_return ih => exact Nat.succ_le_succ ih

theorem takeLine_suffix (room : Nat) (bytes : List UInt8) : (takeLine room bytes).2 <:+ bytes := by
  obtain ⟨front, parts, -⟩ := takeLine_parts room bytes
  exact ⟨front, parts.symm⟩

/-- A line that does not fill the room ends at its line feed, which is taken as well, or at the end
of the content. -/
theorem takeLine_whole {room : Nat} {line : List UInt8} (no_feed : ∀ b ∈ line, b ≠ 10)
    (short : (line.filter (· != 13)).length < room) (rest : List UInt8) :
    takeLine room (line ++ 10 :: rest) = (line.filter (· != 13), rest) ∧
      takeLine room line = (line.filter (· != 13), []) := by
  induction line generalizing room with
  | nil =>
    obtain ⟨room, rfl⟩ := Nat.exists_eq_succ_of_ne_zero (Nat.ne_of_gt short)
    exact ⟨rfl, rfl⟩
  | cons b line ih =>
    obtain ⟨room, rfl⟩ := Nat.exists_eq_succ_of_ne_zero (Nat.ne_of_gt (Nat.zero_lt_of_lt short))
    have not_feed : b ≠ 10 := no_feed b List.mem_cons_self
    have others : ∀ c ∈ line, c ≠ 10 := fun c member => no_feed c (List.mem_cons_of_mem _ member)
    rw [List.cons_append, takeLine, takeLine, if_neg not_feed, if_neg not_feed]
    by_cases is_return : b = 13
    · subst is_return
      rw [if_pos rfl, if_pos rfl]
      exact ih others short
    · have kept : (b :: line).filter (· != 13) = b :: line.filter (· != 13) := by
        simp [is_return]
      rw [kept, List.length_cons] at short
      obtain ⟨feed, last⟩ := ih others (Nat.lt_of_succ_lt_succ short)
      rw [if_neg is_return, if_neg is_return, kept, feed, last]
      exact ⟨rfl, rfl⟩

section

variable {data : Array UInt8} {place : Nat → ByteStream} {rest : List UInt8} {max : Nat}

/-- The stream that has still to give some bytes, which are the last ones of the data. -/
def leaving (data : Array UInt8) (place : Nat → ByteStream) (rest : List UInt8) : ByteStream :=
  place (data.size - rest.length)

variable (served : Serves data place)

include served

theorem remaining_leaving (suffix : rest <:+ data.toList) :
    (leaving data place rest).remaining = rest.length := by
  have short : rest.length ≤ data.size := suffix.length_le
  rw [leaving, served.remaining]
  omega

theorem read_leaving {b : UInt8} (suffix : b :: rest <:+ data.toList) :
    (leaving data place (b :: rest)).read 1 = (.ok #[b], leaving data place rest) := by
  obtain ⟨front, whole⟩ := suffix
  have size : data.size = front.length + (rest.length + 1) := by
    rw [← Array.length_toList, ← whole, List.length_append, List.length_cons]
  have here : data.size - (b :: rest).length = front.length := by
    rw [List.length_cons]
    omega
  have next : data.size - rest.length = front.length + 1 := by omega
  have byte : data.extract front.length (front.length + 1) = #[b] := by
    apply Array.toList_inj.mp
    rw [Array.toList_extract, ← whole, List.extract_eq_take_drop, List.drop_left]
    simp
  rw [leaving, leaving, here, next, served.read _ (by omega), if_pos (by omega), byte]

/-- The bytes of a line are collected one by one. -/
theorem collectLine_leaving (suffix : rest <:+ data.toList) (steps : Nat) (line : Array UInt8)
    (enough : rest.length ≤ steps) :
    collectLine steps max line (leaving data place rest) =
      (.ok (line ++ (takeLine (max - line.size) rest).1.toArray),
        leaving data place (takeLine (max - line.size) rest).2) := by
  induction steps generalizing rest line with
  | zero =>
    rw [List.eq_nil_of_length_eq_zero (Nat.le_zero.mp enough), takeLine_nil]
    simp [collectLine]
  | succ steps ih =>
    have left : (leaving data place rest).atEnd = (rest.length == 0) := by
      rw [atEnd, remaining_leaving served suffix]
    rw [collectLine, left]
    cases rest with
    | nil => simp
    | cons b rest =>
      have suffix' : rest <:+ data.toList := (List.suffix_cons b rest).trans suffix
      have enough' : rest.length ≤ steps := Nat.le_of_succ_le_succ enough
      by_cases full : max ≤ line.size
      · have room : max - line.size = 0 := Nat.sub_eq_zero_of_le full
        simp [room, Nat.not_lt.mpr full]
      · obtain ⟨room, more⟩ := Nat.exists_eq_add_of_lt (Nat.lt_of_not_le full)
        have here : max - line.size = room + 1 := by omega
        rw [if_pos (by simp; omega), read_leaving served suffix, here]
        have first : (#[b] : Array UInt8)[0]? = some b := rfl
        dsimp only
        rw [first, takeLine]
        by_cases feed : b = 10
        · subst feed
          simp
        · by_cases is_return : b = 13
          · subst is_return
            have next := ih suffix' line enough'
            rw [here] at next
            exact next
          · have next := ih suffix' (line.push b) enough'
            have room' : max - (line.push b).size = room := by
              rw [Array.size_push]
              omega
            rw [room'] at next
            simp only [if_neg feed, if_neg is_return]
            rw [next]
            simp

/-- A call takes one line off what is left. -/
theorem readLineBytes_leaving (suffix : rest <:+ data.toList) (max : Nat) :
    (leaving data place rest).readLineBytes max =
      (.ok (takeLine max rest).1.toArray, leaving data place (takeLine max rest).2) := by
  have line : collectLine rest.length max #[] (leaving data place rest) = _ :=
    collectLine_leaving served suffix rest.length #[] (Nat.le_refl _)
  rw [readLineBytes, remaining_leaving served suffix, line]
  simp

theorem readLine_leaving (suffix : rest <:+ data.toList) (max : Nat) :
    (leaving data place rest).readLine max =
      (.ok (Text.decodeLossy (takeLine max rest).1), leaving data place (takeLine max rest).2) := by
  rw [readLine, readLineBytes_leaving served suffix]
  rfl

theorem atEnd_leaving_nil : (leaving data place []).atEnd = true := by
  rw [atEnd, remaining_leaving served List.nil_suffix]
  rfl

theorem atEnd_leaving (some_left : rest ≠ []) (suffix : rest <:+ data.toList) :
    (leaving data place rest).atEnd = false := by
  rw [atEnd, remaining_leaving served suffix]
  exact beq_eq_false_iff_ne.mpr (mt List.eq_nil_of_length_eq_zero some_left)

/-- A call inside the data goes on by at least one byte, and keeps what belongs to a line of the
bytes that it passed. -/
theorem readLineBytes_onward {p : Nat} (some_room : 0 < max) (inside : p < data.size) :
    ∃ q line, (place p).readLineBytes max = (.ok line, place q) ∧ p < q ∧ q ≤ data.size ∧
      line.size ≤ max ∧ line.toList = (data.extract p q).toList.filter isKept := by
  have here : leaving data place (data.toList.drop p) = place p := by
    rw [leaving, List.length_drop, Array.length_toList, Nat.sub_sub_self (Nat.le_of_lt inside)]
  have line := readLineBytes_leaving served (List.drop_suffix p data.toList) max
  obtain ⟨front, parts, kept, taken⟩ := takeLine_parts max (data.toList.drop p)
  have sizes := congrArg List.length parts
  rw [List.length_drop, Array.length_toList, List.length_append] at sizes
  have front_pos : 0 < front.length :=
    List.length_pos_iff.mpr (taken some_room (by simpa using inside))
  have passed : (data.extract p (p + front.length)).toList = front := by
    rw [Array.toList_extract, List.extract_eq_take_drop, Nat.add_sub_cancel_left, parts,
      List.take_left]
  have there : leaving data place (takeLine max (data.toList.drop p)).2 =
      place (p + front.length) := by
    rw [leaving]
    congr 1
    omega
  rw [here, there] at line
  refine ⟨p + front.length, _, line, by omega, by omega, length_takeLine_le .., ?_⟩
  rw [passed, kept]

/-! ## All lines -/

/-- With room for a byte, lines read one after the other share out what is left. -/
theorem untilEnd_leaving (some_room : 0 < max) (suffix : rest <:+ data.toList) :
    ∃ kept : List (Array UInt8),
      UntilEnd (·.readLineBytes max) (leaving data place rest) kept (leaving data place []) ∧
      UntilEnd (·.readLine max) (leaving data place rest) (kept.map (Text.decodeLossy ·.toList))
        (leaving data place []) ∧
      (∀ line ∈ kept, line.size ≤ max) ∧ kept.flatMap Array.toList = rest.filter isKept := by
  induction length : rest.length using Nat.strongRecOn generalizing rest with
  | ind n ih =>
    by_cases nothing : rest = []
    · subst nothing
      have finished := atEnd_leaving_nil served
      exact ⟨[], .ended finished, .ended finished, by simp, rfl⟩
    · have more := atEnd_leaving served nothing suffix
      obtain ⟨front, parts, line, taken⟩ := takeLine_parts max rest
      have front_pos : 0 < front.length := List.length_pos_iff.mpr (taken some_room nothing)
      have shorter := congrArg List.length parts
      rw [List.length_append] at shorter
      obtain ⟨kept, bytes, texts, short, all⟩ :=
        ih (takeLine max rest).2.length (by omega) ((takeLine_suffix max rest).trans suffix) rfl
      refine ⟨(takeLine max rest).1.toArray :: kept,
        .next more (readLineBytes_leaving served suffix max) bytes,
        .next more (readLine_leaving served suffix max) texts, ?_, ?_⟩
      · exact List.forall_mem_cons.mpr ⟨length_takeLine_le max rest, short⟩
      · conv_rhs => rw [parts]
        rw [List.flatMap_cons, all, List.filter_append, line]

omit served in
/-- The bytes of a piece that is shorter than the bound are a whole line. -/
theorem takeLine_encodeChars {piece : List Char} (no_feed : '\n' ∉ piece)
    (short : (Text.encodeChars (piece.filter (· != '\r'))).length < max) (rest : List UInt8) :
    takeLine max (Text.encodeChars piece ++ 10 :: rest) =
        (Text.encodeChars (piece.filter (· != '\r')), rest) ∧
      takeLine max (Text.encodeChars piece) =
        (Text.encodeChars (piece.filter (· != '\r')), []) := by
  have kept : Text.encodeChars (piece.filter (· != '\r')) =
      (Text.encodeChars piece).filter (· != 13) := Text.encodeChars_filter (by decide) piece
  have no_feed' : ∀ b ∈ Text.encodeChars piece, b ≠ 10 := by
    rintro b member rfl
    obtain ⟨c, here, byte⟩ := List.mem_flatMap.mp member
    have same : c = '\n' := (Text.mem_utf8EncodeChar_iff (by decide)).mp byte
    exact no_feed (same ▸ here)
  rw [kept] at short ⊢
  exact takeLine_whole no_feed' short rest

/-- Where every piece of a text is shorter than the bound, lines read one after the other are the
pieces. -/
theorem untilEnd_pieces {cs : List Char} (suffix : Text.encodeChars cs <:+ data.toList)
    (short : ∀ piece ∈ Text.pieces cs, (Text.encodeChars (piece.filter (· != '\r'))).length < max) :
    UntilEnd (·.readLine max) (leaving data place (Text.encodeChars cs))
      ((Text.pieces cs).map fun piece => String.ofList (piece.filter (· != '\r')))
      (leaving data place []) := by
  induction length : cs.length using Nat.strongRecOn generalizing cs with
  | ind n ih =>
    have line := readLine_leaving served suffix max
    by_cases feed : '\n' ∈ cs
    · obtain ⟨piece, rest, rfl, no_feed⟩ := List.eq_append_cons_of_mem feed
      have bytes : Text.encodeChars (piece ++ '\n' :: rest) =
          Text.encodeChars piece ++ 10 :: Text.encodeChars rest := by
        rw [Text.encodeChars_append, Text.encodeChars_cons]
        rfl
      rw [Text.pieces_feed no_feed] at short ⊢
      obtain ⟨here, others⟩ := List.forall_mem_cons.mp short
      rw [bytes] at suffix line ⊢
      rw [(takeLine_encodeChars no_feed here _).1, Text.decodeLossy_encodeChars] at line
      have suffix' : Text.encodeChars rest <:+ data.toList :=
        ((List.suffix_cons ..).trans (List.suffix_append ..)).trans suffix
      have shorter : rest.length < n := by
        rw [← length, List.length_append, List.length_cons]
        omega
      exact .next (atEnd_leaving served (by simp) suffix) line
        (ih rest.length shorter suffix' others rfl)
    · by_cases nothing : cs = []
      · subst nothing
        exact .ended (atEnd_leaving_nil served)
      · rw [Text.pieces_last feed nothing] at short ⊢
        have here := short cs (List.mem_singleton_self _)
        rw [(takeLine_encodeChars feed here []).2, Text.decodeLossy_encodeChars] at line
        refine .next (atEnd_leaving served ?_ suffix) line (.ended (atEnd_leaving_nil served))
        exact Text.encodeChars_ne_nil nothing

end

/-- Lines read one after the other from the start of a stream, up to its end. With room for at least
one byte, every call that is not at the end goes on by at least one byte and keeps, of the bytes it
passed, all but line feeds and carriage returns, which are no more than there is room for; so the
calls reach the end, and together they keep the whole content but those bytes, each of them once.
Where the content is a text whose lines are all shorter than the bound, the calls give exactly these
lines. -/
theorem lines_until_end {data : Array UInt8} {place : Nat → ByteStream} (served : Serves data place)
    (max : Nat) :
    (0 < max →
      (∀ p < data.size, ∃ q line, (place p).readLineBytes max = (.ok line, place q) ∧
        p < q ∧ q ≤ data.size ∧ line.size ≤ max ∧
        line.toList = (data.extract p q).toList.filter isKept) ∧
      ∃ kept, UntilEnd (·.readLineBytes max) (place 0) kept (place data.size) ∧
        UntilEnd (·.readLine max) (place 0) (kept.map (Text.decodeLossy ·.toList))
          (place data.size) ∧
        (∀ line ∈ kept, line.size ≤ max) ∧
        kept.flatMap Array.toList = data.toList.filter isKept) ∧
    ∀ text, data.toList = Text.encode text →
      (∀ line ∈ Text.linesOf text, (Text.encode line).length < max) →
      ∀ lines s, UntilEnd (·.readLine max) (place 0) lines s ↔
        lines = Text.linesOf text ∧ s = place data.size := by
  have start : leaving data place data.toList = place 0 := by simp [leaving]
  have finish : leaving data place [] = place data.size := by simp [leaving]
  refine ⟨fun some_room => ⟨fun p => readLineBytes_onward served some_room, ?_⟩,
    fun text content short lines s => ?_⟩
  · have all := untilEnd_leaving served some_room (List.suffix_refl data.toList)
    rwa [start, finish] at all
  · rw [Text.encode_eq] at content
    have bytes (piece : List Char) :
        Text.encode (String.ofList piece) = Text.encodeChars piece := by
      rw [Text.encode_eq, String.toList_ofList]
    have pieces : UntilEnd (·.readLine max) (leaving data place (Text.encodeChars text.toList)) _ _ :=
      untilEnd_pieces served (content ▸ List.suffix_refl _) fun piece member =>
        bytes (piece.filter (· != '\r')) ▸ short _ (List.mem_map_of_mem member)
    rw [← content, start, finish] at pieces
    constructor
    · exact fun other => other.unique pieces
    · rintro ⟨rfl, rfl⟩
      exact pieces

/-- A text with a carriage return, an empty line, a character of two bytes and a line feed at its
end, in memory and in a file: its lines, where they are shorter than the bound, and a run of single
bytes where that is one. -/
theorem lines_until_end_two_kinds :
    let data := (Text.encode "ab\r\n\né\n").toArray
    Serves data (memoryAt data) ∧ Serves data (fileAt data) ∧
      (∀ line ∈ ["ab", "", "é"], (Text.encode line).length < 3) ∧
      UntilEnd (·.readLine 3) (.memory (.ofBytes data)) ["ab", "", "é"] (memoryAt data 8) ∧
      UntilEnd (·.readLine 3) (.file (.ofBytes data)) ["ab", "", "é"] (fileAt data 8) ∧
      ∃ kept, UntilEnd (·.readLineBytes 1) (.file (.ofBytes data)) kept (fileAt data 8) ∧
        (∀ line ∈ kept, line.size ≤ 1) ∧ kept.flatMap Array.toList = [97, 98, 195, 169] := by
  intro data
  have in_memory := serves_memory data
  have on_file := serves_file data
  have size : data.size = 8 := by decide +kernel
  have lines : Text.linesOf "ab\r\n\né\n" = ["ab", "", "é"] := by decide
  have short : ∀ line ∈ ["ab", "", "é"], (Text.encode line).length < 3 := by decide +kernel
  have read {place : Nat → ByteStream} (served : Serves data place) :
      UntilEnd (·.readLine 3) (place 0) ["ab", "", "é"] (place 8) :=
    ((lines_until_end served 3).2 "ab\r\n\né\n" rfl (lines ▸ short) _ _).mpr
      ⟨lines.symm, congrArg place size.symm⟩
  obtain ⟨kept, bytes, -, single, all⟩ := ((lines_until_end on_file 1).1 Nat.one_pos).2
  have content : data.toList.filter isKept = [97, 98, 195, 169] := by decide +kernel
  exact ⟨in_memory, on_file, short, read in_memory, read on_file, kept, size ▸ bytes, single,
    all.trans content⟩

end ByteStream

end TileEngine
