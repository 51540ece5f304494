import GridLayout.Document.LoadError
import GridLayout.Proofs.Positions

/-!
# Where the span of a fault in a JSON text ends

A fault in a JSON text is reported at a line and a column, and its span is the byte there.  When
line and column are those of an offset, the span starts at it, because a position leads back to the
offset it is of.  Its end is one byte further, or is the end of the text; so it lies behind the
character at the offset if that is a character of one byte, and inside the character otherwise.

* `Boundary`, `CharAt`, `Cuts`: the boundaries between characters, the character that starts at an
  offset, and the part of a text that a span cuts out.
* `CharAt.boundary_add_iff`: inside a character there is no boundary.
* `byteAt?_eq_some`: the span at the position of an offset.
* `span?_json_boundary`: where the span starts and ends, when it ends between characters, and what
  it cuts out then.
* `not_forall_span?_json_boundary`: a text that does not load, at a character of two bytes.
-/

namespace GridLayout

/-! ## Boundaries of characters -/

/-- Whether an offset is one between the characters of a text, or at an end of it. -/
def Boundary (source : String) (offset : Nat) : Prop :=
  (⟨offset⟩ : String.Pos.Raw).IsValid source

instance (source : String) (offset : Nat) : Decidable (Boundary source offset) :=
  inferInstanceAs (Decidable (String.Pos.Raw.IsValid source ⟨offset⟩))

/-- A character that starts at an offset of a text. -/
def CharAt (source : String) (offset : Nat) (c : Char) : Prop :=
  ∃ before after, source = before ++ (String.singleton c ++ after) ∧ before.utf8ByteSize = offset

/-- The part of a text that a span cuts out of it. -/
def Cuts (source : String) (span : Span) (part : String) : Prop :=
  ∃ before after, source = before ++ (part ++ after) ∧ before.utf8ByteSize = span.start ∧
    before.utf8ByteSize + part.utf8ByteSize = span.stop

theorem boundary_iff_exists_append {source : String} {offset : Nat} :
    Boundary source offset ↔
      ∃ before after, source = before ++ after ∧ before.utf8ByteSize = offset := by
  rw [Boundary, String.Pos.Raw.isValid_iff_exists_append]
  refine exists_congr fun before => exists_congr fun after => and_congr_right fun _ => ?_
  rw [String.Pos.Raw.ext_iff, eq_comm, String.byteIdx_rawEndPos]

theorem Boundary.le {source : String} {offset : Nat} (h : Boundary source offset) :
    offset ≤ source.utf8ByteSize := by
  obtain ⟨before, after, rfl, rfl⟩ := boundary_iff_exists_append.mp h
  rw [String.utf8ByteSize_append]
  exact Nat.le_add_right _ _

theorem boundary_utf8ByteSize (source : String) : Boundary source source.utf8ByteSize :=
  boundary_iff_exists_append.mpr ⟨source, "", by rw [String.append_empty], rfl⟩

/-- At a boundary before the end of a text a character starts. -/
theorem Boundary.exists_charAt {source : String} {offset : Nat} (h : Boundary source offset)
    (hlt : offset < source.utf8ByteSize) : ∃ c, CharAt source offset c := by
  obtain ⟨before, after, rfl, rfl⟩ := boundary_iff_exists_append.mp h
  cases hafter : after.toList with
  | nil =>
    rw [String.toList_eq_nil_iff.mp hafter, String.append_empty] at hlt
    exact absurd hlt (Nat.lt_irrefl _)
  | cons c cs =>
    refine ⟨c, before, String.ofList cs, ?_, rfl⟩
    rw [← String.ofList_toList (s := after), hafter, String.singleton_eq_ofList,
      ← String.ofList_append, List.singleton_append]

/-- The bytes of a character are all in the text. -/
theorem CharAt.add_le {source : String} {offset : Nat} {c : Char} (h : CharAt source offset c) :
    offset + c.utf8Size ≤ source.utf8ByteSize := by
  obtain ⟨before, after, rfl, rfl⟩ := h
  rw [String.utf8ByteSize_append, String.utf8ByteSize_append, String.utf8ByteSize_singleton]
  omega

/-- The next boundary behind the start of a character is where the character ends. -/
theorem CharAt.boundary_add_iff {source : String} {offset : Nat} {c : Char}
    (h : CharAt source offset c) {i : Nat} (hpos : 0 < i) (hle : i ≤ c.utf8Size) :
    Boundary source (offset + i) ↔ i = c.utf8Size := by
  obtain ⟨before, after, rfl, rfl⟩ := h
  constructor
  · intro hb
    obtain hbefore | ⟨-, hrest⟩ := String.Pos.Raw.isValid_append.mp hb
    · have hin : before.utf8ByteSize + i ≤ before.utf8ByteSize := Boundary.le hbefore
      omega
    obtain hchar | ⟨hend, -⟩ := String.Pos.Raw.isValid_append.mp hrest
    · obtain hzero | hsize := String.Pos.Raw.isValid_singleton.mp hchar
      · simp [String.Pos.Raw.ext_iff] at hzero
        omega
      · simpa using hsize
    · simp [String.Pos.Raw.le_iff] at hend
      omega
  · rintro rfl
    refine boundary_iff_exists_append.mpr ⟨before ++ String.singleton c, after, ?_, ?_⟩
    · rw [String.append_assoc]
    · rw [String.utf8ByteSize_append, String.utf8ByteSize_singleton]

/-- One byte behind a boundary there is another one exactly when a character of one byte starts
there. -/
theorem Boundary.succ_iff {source : String} {offset : Nat} (h : Boundary source offset)
    (hlt : offset < source.utf8ByteSize) :
    Boundary source (offset + 1) ↔ ∀ c, CharAt source offset c → c.utf8Size = 1 := by
  have hsucc : ∀ c, CharAt source offset c → (Boundary source (offset + 1) ↔ 1 = c.utf8Size) :=
    fun c hc => hc.boundary_add_iff Nat.one_pos c.utf8Size_pos
  constructor
  · intro hb c hc
    exact ((hsucc c hc).mp hb).symm
  · intro hone
    obtain ⟨c, hc⟩ := h.exists_charAt hlt
    exact (hsucc c hc).mpr (hone c hc).symm

theorem not_charAt_end (source : String) (c : Char) : ¬ CharAt source source.utf8ByteSize c := by
  intro h
  have := h.add_le
  have := c.utf8Size_pos
  omega

/-! ## Spans of positions -/

/-- A line and a column, both counted from one, that are those of an offset.  A fault at a line end
is reported at column zero of the next line, which counts as its first. -/
structure PointsAt (source : String) (line column offset : Nat) : Prop where
  line_eq : line = (Position.ofOffset (bytesOf source) offset).line
  column_eq : column - 1 = (Position.ofOffset (bytesOf source) offset).column

/-- The span of a position that is that of an offset is the byte there, if there is one. -/
theorem byteAt?_eq_some {source : String} {line column offset : Nat}
    (h : PointsAt source line column offset) (hle : offset ≤ source.utf8ByteSize) :
    byteAt? source line column = some ⟨offset, min (offset + 1) source.utf8ByteSize⟩ := by
  have hback : offsetOf? (bytesOf source) line column = some offset := by
    rw [offsetOf?, h.column_eq, h.line_eq]
    exact offsetOf?_ofOffset (by rwa [length_bytesOf])
  rw [byteAt?, hback, Option.map_some, length_bytesOf]

/-- **A fault in a JSON text that is reported at the position of a character, or at the end of the
text, has a span that starts there, stays within the text and is empty at the end of the text only.
Its end is between characters exactly when no character of several bytes starts there, and then the
span cuts out the character, or nothing at the end.**  A character of several bytes is cut. -/
theorem span?_json_boundary {source : String} {line column offset : Nat}
    (h : PointsAt source line column offset) (hb : Boundary source offset) :
    ∃ span, byteAt? source line column = some span ∧
      (∀ fault : Fault, fault.jsonPosition source = ⟨line, column⟩ →
        (LoadError.text .json source fault).span? = some span) ∧
      span.start = offset ∧ span.start ≤ span.stop ∧ span.stop ≤ source.utf8ByteSize ∧
      (span.start = span.stop ↔ offset = source.utf8ByteSize) ∧
      (Boundary source span.stop ↔ ∀ c, CharAt source offset c → c.utf8Size = 1) ∧
      (∀ c, CharAt source offset c → c.utf8Size = 1 → Cuts source span (String.singleton c)) ∧
      (offset = source.utf8ByteSize → Cuts source span "") := by
  have hspan := byteAt?_eq_some h hb.le
  refine ⟨_, hspan, ?_, rfl, ?_⟩
  · intro fault hfault
    show byteAt? source (fault.jsonPosition source).line (fault.jsonPosition source).column = _
    rw [hfault, hspan]
  obtain hlt | rfl := Nat.lt_or_eq_of_le hb.le
  · -- There is a character here, so the byte behind the offset is one of the text.
    rw [Nat.min_eq_left hlt]
    refine ⟨Nat.le_succ offset, hlt, by simp; omega, hb.succ_iff hlt, ?_,
      fun heq => absurd heq hlt.ne⟩
    rintro c ⟨before, after, hsource, hoffset⟩ hone
    refine ⟨before, after, hsource, hoffset, ?_⟩
    rw [String.utf8ByteSize_singleton, hone, hoffset]
  · rw [Nat.min_eq_right (Nat.le_succ _)]
    refine ⟨Nat.le_refl _, Nat.le_refl _, by simp, ?_, ?_, fun _ => ?_⟩
    · exact iff_of_true (boundary_utf8ByteSize source)
        fun c hc => absurd hc (not_charAt_end source c)
    · exact fun c hc => absurd hc (not_charAt_end source c)
    · exact ⟨source, "", by rw [String.append_empty, String.append_empty], rfl, by simp⟩

/-! ## Faults of texts that are loaded -/

/-- What is wrong with a text as a document, if anything is. -/
def Document.fault? (format : Format) (source : String) : Option Fault :=
  match Document.ofText format source with
  | .ok _ => none
  | .error f => some f

/-- A text with which something is wrong does not load. -/
theorem Document.load_eq_error {format : Format} {source : String} {f : Fault}
    (h : Document.fault? format source = some f) :
    Document.load format source = .error (.text format source f) := by
  rw [Document.load]
  rw [Document.fault?] at h
  split at h
  · exact nomatch h
  · next g hg => rw [hg, Option.some.inj h]; rfl

/-- A document with a text for its layout. -/
def withLayout (layout : String) : String := "\x7b\n  \"layout\": " ++ layout ++ "\x7d\n"

/-- The layout is missing, and the span is the brace in its place. -/
theorem span?_json_missing_layout :
    Document.load .json (withLayout "") =
        .error (.text .json (withLayout "") (.json .valueExpected 15)) ∧
      PointsAt (withLayout "") 2 13 14 ∧ Boundary (withLayout "") 14 ∧
      ∃ span, (LoadError.text .json (withLayout "") (.json .valueExpected 15)).span? = some span ∧
        span.start = 14 ∧ Cuts (withLayout "") span "\x7d" := by
  have hat : PointsAt (withLayout "") 2 13 14 := ⟨by decide +kernel, by decide +kernel⟩
  have hb : Boundary (withLayout "") 14 := by decide +kernel
  have hbrace : CharAt (withLayout "") 14 '\x7d' :=
    ⟨"\x7b\n  \"layout\": ", "\n", by decide, by decide⟩
  obtain ⟨span, -, hspan, hstart, -, -, -, -, hcuts, -⟩ := span?_json_boundary hat hb
  exact ⟨Document.load_eq_error (by decide +kernel), hat, hb, span,
    hspan _ (by decide +kernel), hstart, hcuts '\x7d' hbrace (by decide)⟩

/-- **The span of a fault in a JSON text can end inside a character.**  Where a value has to be, a
letter of two bytes stands, and the span is the first of the two. -/
theorem not_forall_span?_json_boundary :
    ¬ ∀ (source : String) (fault : Fault) (offset : Nat),
      Document.load .json source = .error (.text .json source fault) →
      PointsAt source (fault.jsonPosition source).line (fault.jsonPosition source).column offset →
      Boundary source offset →
      ∃ span, (LoadError.text .json source fault).span? = some span ∧ span.start = offset ∧
        span.stop ≤ source.utf8ByteSize ∧ Boundary source span.start ∧ Boundary source span.stop ∧
        (span.start = span.stop → offset = source.utf8ByteSize) := by
  intro hall
  have hload : Document.load .json (withLayout "é") =
      .error (.text .json (withLayout "é") (.json .valueExpected 15)) :=
    Document.load_eq_error (by decide +kernel)
  obtain ⟨span, hspan, -, -, -, hstop, -⟩ :=
    hall _ _ 14 hload ⟨by decide +kernel, by decide +kernel⟩ (by decide +kernel)
  have hone : (LoadError.text .json (withLayout "é") (.json .valueExpected 15)).span? =
      some ⟨14, 15⟩ := by decide +kernel
  rw [Option.some.inj (hspan.symm.trans hone)] at hstop
  exact absurd hstop (by decide +kernel)

end GridLayout
