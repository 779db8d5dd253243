import DomainForge.Proofs.Text.Cuts
import DomainForge.Settings.Validation

/-!
# Labels of faults

A fault of settings is labelled in the file that they come from: where the text at fault stands
between double quotes, or else where it stands at all (`PointsAt`, `label_pointsAtText`).

Files are searched character by character, and labels count bytes. The two agree because the bytes
of a text neither begin nor end in the middle of a character (`Span.Covers.isAligned`). So a span
covers a text exactly where the file can be cut around it (`Span.covers_iff`), and the bytes of the
text stand nowhere before the place that is found (`isFirst_of_mem_spanOf`).
-/

namespace DomainForge

namespace Text

/-! ## Bytes and characters -/

namespace Span

/-- The bytes of a source between the ends of a span are those of a text. -/
structure Covers (span : Span) (part source : String) : Prop where
  inside : span.offset + span.length ≤ source.utf8ByteSize
  bytes : source.toByteArray.extract span.offset (span.offset + span.length) = part.toByteArray

/-- Both ends of a span stand between characters of a source. -/
structure IsAligned (span : Span) (source : String) : Prop where
  start : String.Pos.Raw.IsValid source ⟨span.offset⟩
  stop : String.Pos.Raw.IsValid source ⟨span.offset + span.length⟩

/-- A span covers a text, and nowhere before it do the bytes of the text stand. -/
structure IsFirst (span : Span) (part source : String) : Prop where
  covers : span.Covers part source
  earliest : ∀ other : Span, other.Covers part source → span.offset ≤ other.offset

end Span

/-- The bytes of a text stand somewhere in a source. -/
def Occurs (part source : String) : Prop :=
  ∃ span : Span, span.Covers part source

theorem byteLength_eq_utf8ByteSize (chars : List Char) :
    byteLength chars = (String.ofList chars).utf8ByteSize := by
  induction chars with
  | nil => simp [byteLength]
  | cons c rest ih =>
    rw [byteLength, ih, String.ofList_cons, String.utf8ByteSize_append,
      String.utf8ByteSize_singleton]

namespace Span

variable {span : Span} {part source : String}

theorem Covers.length_eq (h : span.Covers part source) : span.length = part.utf8ByteSize := by
  have hsize := congrArg ByteArray.size h.bytes
  rw [ByteArray.size_extract, String.size_toByteArray, String.size_toByteArray,
    Nat.min_eq_left h.inside] at hsize
  omega

/-- The bytes of a text do not begin or end in the middle of a character. -/
theorem Covers.isAligned (h : span.Covers part source) (hpart : part ≠ "") :
    span.IsAligned source := by
  have hlength : span.length ≠ 0 := by
    rw [h.length_eq]
    exact mt String.utf8ByteSize_eq_zero_iff.1 hpart
  have hvalid := part.isValidUTF8
  rw [← h.bytes] at hvalid
  have hle : (⟨span.offset⟩ : String.Pos.Raw) ≤ ⟨span.offset + span.length⟩ :=
    Nat.le_add_right span.offset span.length
  rcases (String.Pos.Raw.isValidUTF8_extract_iff _ _ hle h.inside).1 hvalid with hsame | hends
  · have hoffset : span.offset = span.offset + span.length := congrArg (·.byteIdx) hsame
    omega
  · exact ⟨hends.1, hends.2⟩

/-- A part is covered by the bytes from its start on. -/
theorem covers_append (before part after : String) :
    Covers ⟨before.utf8ByteSize, part.utf8ByteSize⟩ part (before ++ (part ++ after)) where
  inside := by
    simp only [String.utf8ByteSize_append]
    omega
  bytes := by
    rw [String.toByteArray_append, String.toByteArray_append]
    calc (before.toByteArray ++ (part.toByteArray ++ after.toByteArray)).extract
          (before.toByteArray.size + 0) (before.toByteArray.size + part.toByteArray.size)
      _ = (part.toByteArray ++ after.toByteArray).extract 0 part.toByteArray.size :=
        ByteArray.extract_append_size_add
      _ = part.toByteArray := ByteArray.extract_append_eq_left rfl

/-- A span covers a part exactly if it starts behind a text before it and has its length. -/
theorem covers_iff (hpart : part ≠ "") :
    span.Covers part source ↔ ∃ before after, source = before ++ (part ++ after) ∧
      span = ⟨before.utf8ByteSize, part.utf8ByteSize⟩ := by
  constructor
  · intro h
    -- The bytes before and behind the span are texts because its ends are aligned.
    obtain ⟨hstart, hstop⟩ := h.isAligned hpart
    have hoffset : span.offset ≤ source.utf8ByteSize := hstart.le_utf8ByteSize
    have hcut : source.toByteArray = source.toByteArray.extract 0 span.offset ++
        (part.toByteArray ++
          source.toByteArray.extract (span.offset + span.length) source.utf8ByteSize) := by
      rw [← h.bytes,
        ← ByteArray.extract_eq_extract_append_extract _ (Nat.le_add_right _ _) h.inside,
        ← ByteArray.extract_eq_extract_append_extract _ (Nat.zero_le _) hoffset]
      exact ByteArray.extract_zero_size.symm
    refine ⟨⟨_, hstart.isValidUTF8_extract_zero⟩, ⟨_, hstop.isValidUTF8_extract_utf8ByteSize⟩,
      String.toByteArray_inj.1 hcut, ?_⟩
    rw [← h.length_eq, String.utf8ByteSize_ofByteArray, ByteArray.size_extract,
      String.size_toByteArray, Nat.min_eq_left hoffset]
    rfl
  · rintro ⟨before, after, rfl, rfl⟩
    exact covers_append before part after

end Span

/-! ## First occurrences -/

theorem occurs_iff {part source : String} (hpart : part ≠ "") :
    Occurs part source ↔ part.toList <:+: source.toList := by
  constructor
  · rintro ⟨span, hspan⟩
    obtain ⟨before, after, rfl, -⟩ := (Span.covers_iff hpart).1 hspan
    exact ⟨before.toList, after.toList, by simp⟩
  · rintro ⟨before, after, hsource⟩
    refine ⟨_, (Span.covers_iff hpart).2 ⟨String.ofList before, String.ofList after, ?_, rfl⟩⟩
    rw [← String.toList_inj]
    simp [← hsource]

variable {needle source : String}

theorem spanOf_eq_none_iff (hneedle : needle ≠ "") :
    spanOf needle.toList source.toList = none ↔ ¬ Occurs needle source := by
  rw [spanOf, Option.map_eq_none_iff, breakOn_eq_none_iff, occurs_iff hneedle]

theorem isFirst_of_mem_spanOf (hneedle : needle ≠ "") {span : Span}
    (h : span ∈ spanOf needle.toList source.toList) : span.IsFirst needle source := by
  obtain ⟨⟨before, after⟩, hbreak, rfl⟩ := Option.map_eq_some_iff.1 h
  have hnil : needle.toList ≠ [] := mt String.toList_eq_nil_iff.1 hneedle
  have hsource : source = String.ofList before ++ (needle ++ String.ofList after) := by
    rw [← String.toList_inj]
    simpa using ((breakOn_eq_some_iff hnil).1 hbreak).1
  simp only [byteLength_eq_utf8ByteSize, String.ofList_toList]
  constructor
  · rw [hsource]
    exact Span.covers_append _ needle _
  · -- The search goes by characters, so any other bytes are made a cut of the source first.
    intro other hother
    obtain ⟨start, rest, hcut, rfl⟩ := (Span.covers_iff hneedle).1 hother
    obtain ⟨between, hbetween⟩ : before <+: start.toList :=
      breakOn_earliest hbreak (by rw [hcut, String.toList_append, String.toList_append])
    have hstart : start = String.ofList before ++ String.ofList between := by
      rw [← String.toList_inj]
      simpa using hbetween.symm
    rw [hstart, String.utf8ByteSize_append]
    exact Nat.le_add_right _ _

/-! ## Labels -/

/-- A text in double quotes. -/
def inQuotes (text : String) : String :=
  "\"" ++ text ++ "\""

/-- What points at a needle in a source: nothing if the needle is empty or does not occur, and else
a span between characters of the source. It covers the first needle in double quotes, or the first
of all needles if none is in double quotes. -/
structure PointsAt (needle source : String) (found : Option Span) : Prop where
  none_iff : found = none ↔ needle = "" ∨ ¬ Occurs needle source
  aligned : ∀ span ∈ found, span.IsAligned source
  quoted : Occurs (inQuotes needle) source →
    ∀ span ∈ found, span.IsFirst (inQuotes needle) source
  bare : ¬ Occurs (inQuotes needle) source → ∀ span ∈ found, span.IsFirst needle source

theorem inQuotes_ne_empty (text : String) : inQuotes text ≠ "" := by
  intro h
  have hlist := congrArg String.toList h
  simp [inQuotes] at hlist

theorem occurs_of_inQuotes (hneedle : needle ≠ "") (h : Occurs (inQuotes needle) source) :
    Occurs needle source := by
  rw [occurs_iff (inQuotes_ne_empty needle)] at h
  rw [occurs_iff hneedle]
  have hpart : needle.toList <:+: (inQuotes needle).toList := ⟨['"'], ['"'], by simp [inQuotes]⟩
  exact hpart.trans h

/-- Needles in quotes come first, then all of them. -/
theorem quotedSpanOf_eq_or (hneedle : needle ≠ "") :
    quotedSpanOf needle.toList source.toList =
      (spanOf (inQuotes needle).toList source.toList).or (spanOf needle.toList source.toList) := by
  have hquotes : (inQuotes needle).toList = ['"'] ++ needle.toList ++ ['"'] := by simp [inQuotes]
  have hempty : ¬ needle.toList.isEmpty := by simpa using hneedle
  rw [quotedSpanOf, if_neg hempty, hquotes]

theorem quotedSpanOf_of_occurs (hneedle : needle ≠ "") (h : Occurs (inQuotes needle) source) :
    quotedSpanOf needle.toList source.toList = spanOf (inQuotes needle).toList source.toList := by
  have hsome : spanOf (inQuotes needle).toList source.toList ≠ none :=
    mt (spanOf_eq_none_iff (inQuotes_ne_empty needle)).1 (not_not.2 h)
  obtain ⟨span, hspan⟩ := Option.ne_none_iff_exists'.1 hsome
  rw [quotedSpanOf_eq_or hneedle, hspan, Option.some_or]

theorem quotedSpanOf_of_not_occurs (hneedle : needle ≠ "")
    (h : ¬ Occurs (inQuotes needle) source) :
    quotedSpanOf needle.toList source.toList = spanOf needle.toList source.toList := by
  rw [quotedSpanOf_eq_or hneedle, (spanOf_eq_none_iff (inQuotes_ne_empty needle)).2 h,
    Option.none_or]

/-- The label of a needle points at it. -/
theorem pointsAt_quotedSpanOf (needle source : String) :
    PointsAt needle source (quotedSpanOf needle.toList source.toList) := by
  by_cases hneedle : needle = ""
  · subst hneedle
    have hnone : quotedSpanOf "".toList source.toList = none := rfl
    rw [hnone]
    constructor <;> simp
  by_cases hquoted : Occurs (inQuotes needle) source
  · have hquotes := inQuotes_ne_empty needle
    rw [quotedSpanOf_of_occurs hneedle hquoted]
    refine ⟨?_, fun span h => ?_, fun _ span h => isFirst_of_mem_spanOf hquotes h,
      fun hbare => absurd hquoted hbare⟩
    · simp [spanOf_eq_none_iff hquotes, hquoted, hneedle, occurs_of_inQuotes hneedle hquoted]
    · exact (isFirst_of_mem_spanOf hquotes h).covers.isAligned hquotes
  · rw [quotedSpanOf_of_not_occurs hneedle hquoted]
    refine ⟨?_, fun span h => ?_, fun h => absurd h hquoted,
      fun _ span h => isFirst_of_mem_spanOf hneedle h⟩
    · simp [spanOf_eq_none_iff hneedle, hneedle]
    · exact (isFirst_of_mem_spanOf hneedle h).covers.isAligned hneedle

/-- Quotes outweigh an earlier place, and the letter with an accent counts two bytes. -/
example : quotedSpanOf "App".toList "# é App\nnamespace = \"App\"\n".toList = some ⟨21, 5⟩ := by
  decide

end Text

open Text

/-- The text that a label is about, as files spell it: a subfolder as it is, and a namespace with
two backslashes between its parts. -/
def SettingsFault.spelled : SettingsFault → String
  | .badNamespace given _ => joinWith "\\\\" (fields isBackslash given)
  | .leavesOutput subfolder => subfolder
  | .absoluteSubfolder subfolder => subfolder

/-- A fault is looked for as it is spelt in the file. -/
theorem SettingsFault.needle_eq_toList_spelled (fault : SettingsFault) :
    fault.needle = fault.spelled.toList := by
  cases fault with
  | badNamespace given reason =>
    rw [spelled, toList_joinWith_fields, needle, doubled]
    simp [isBackslash]
  | leavesOutput subfolder => rfl
  | absoluteSubfolder subfolder => rfl

/-- **Labels.** Whatever is looked for in a source, the span that is found points at it. So the
label of a fault points at the text at fault. -/
theorem label_pointsAtText (source : String) :
    (∀ needle : String, PointsAt needle source (quotedSpanOf needle.toList source.toList)) ∧
    ∀ fault : SettingsFault, PointsAt fault.spelled source (fault.span? source) := by
  refine ⟨fun needle => pointsAt_quotedSpanOf needle source, fun fault => ?_⟩
  rw [SettingsFault.span?, SettingsFault.needle_eq_toList_spelled]
  exact pointsAt_quotedSpanOf fault.spelled source

end DomainForge
