import Deinterlace.Proofs.Image.Placement

/-!
# Writing an image of one colour

All bytes of `SoftwareImage.filled` are alike, so writing one paints the places of its rows
(`paints_write`). The chroma places of a layout are as wide as its chroma rounded up to whole pairs.
An image in separate planes has a sample for each of them. Interleaved chroma has one byte less if
the width is odd, and the last byte of each chroma row of the buffer is left as it was:
`painted_iff` says when this can be seen.
-/
namespace Deinterlace.Nv12

/-! ## Places -/

/-- The places of the bytes of the first `rows` rows of a plane. -/
def Target.area (t : Target) (rows : Nat) : Set Nat := { i | ∃ r < rows, i ∈ t.span r }

namespace Layout

variable (layout : Layout)

def luma : Target := ⟨layout.lumaOffset, layout.lumaPitch, layout.width⟩

/-- The first `columns` bytes of the chroma rows. -/
def chroma (columns : Nat) : Target := ⟨layout.chromaOffset, layout.chromaPitch, columns⟩

/-- The places of the luma, and of the first `columns` bytes of each chroma row. -/
def places (columns : Nat) : Set Nat :=
  layout.luma.area layout.height ∪ (layout.chroma columns).area (chromaExtent layout.height)

/-- The places of all samples: a chroma row has two bytes for each pair of columns. -/
def whole : Set Nat := layout.places (2 * chromaExtent layout.width)

/-- Both planes lie inside a buffer of `size` bytes, apart from each other, and the pitches leave
room for whole pairs. -/
structure Roomy (size : Nat) : Prop where
  lumaPitch : 2 * chromaExtent layout.width ≤ layout.lumaPitch
  chromaPitch : 2 * chromaExtent layout.width ≤ layout.chromaPitch
  inside : ∀ i ∈ layout.whole, i < size
  apart : Disjoint (layout.luma.area layout.height)
    ((layout.chroma (2 * chromaExtent layout.width)).area (chromaExtent layout.height))

end Layout

/-- One buffer is the other with all bytes at some places replaced by one. -/
structure Paints (places : Set Nat) (fill : UInt8) (before after : Bytes) : Prop where
  size : after.size = before.size
  inside {i : Nat} (h : i ∈ places) : after[i]? = some fill
  outside {i : Nat} (h : i ∉ places) : after[i]? = before[i]?

namespace Paints

variable {places whole : Set Nat} {fill : UInt8} {before after others : Bytes}

/-- Painting a part leaves the whole painted exactly if the rest had the colour before. -/
theorem whole_iff (h : Paints places fill before after) :
    (∀ i ∈ whole, after[i]? = some fill) ↔ ∀ i ∈ whole \ places, before[i]? = some fill := by
  constructor
  · intro hall i hi
    rw [← h.outside hi.2]
    exact hall i hi.1
  · intro hrest i hi
    by_cases hplaces : i ∈ places
    · exact h.inside hplaces
    · rw [h.outside hplaces]
      exact hrest i ⟨hi, hplaces⟩

/-- A part and the whole painted look alike exactly if the rest had the colour before. -/
theorem eq_iff (hpart : Paints places fill before after) (hwhole : Paints whole fill before others)
    (hsub : places ⊆ whole) : after = others ↔ ∀ i ∈ whole \ places, before[i]? = some fill := by
  rw [← hpart.whole_iff]
  constructor
  · rintro rfl i hi
    exact hwhole.inside hi
  · intro hall
    refine Array.ext_getElem? fun i => ?_
    by_cases hi : i ∈ whole
    · rw [hall i hi, hwhole.inside hi]
    · rw [hpart.outside fun hplaces => hi (hsub hplaces), hwhole.outside hi]

end Paints

section Places

variable {layout : Layout} {columns size : Nat}

theorem Target.mem_area {t : Target} {rows i : Nat} :
    i ∈ t.area rows ↔ ∃ r < rows, ∃ col < t.width, i = t.start r + col := by
  refine exists_congr fun r => and_congr_right fun _ => ?_
  rw [mem_span]
  constructor
  · rintro ⟨hle, hlt⟩
    exact ⟨i - t.start r, by omega, by omega⟩
  · rintro ⟨col, hcol, rfl⟩
    omega

/-- Different columns of rows that are no longer than their pitch are different places. -/
theorem Target.start_add_inj {t : Target} {r s c d : Nat} (hc : c < t.pitch) (hd : d < t.pitch)
    (h : t.start r + c = t.start s + d) : c = d := by
  have hmod : (r * t.pitch + c) % t.pitch = (s * t.pitch + d) % t.pitch := by
    unfold start at h
    rw [show r * t.pitch + c = s * t.pitch + d by omega]
  rwa [Nat.mul_add_mod', Nat.mul_add_mod', Nat.mod_eq_of_lt hc, Nat.mod_eq_of_lt hd] at hmod

theorem Layout.area_chroma_mono (layout : Layout) {more : Nat} (h : columns ≤ more) (rows : Nat) :
    (layout.chroma columns).area rows ⊆ (layout.chroma more).area rows := by
  intro i hi
  obtain ⟨r, hr, col, hcol, rfl⟩ := Target.mem_area.1 hi
  exact Target.mem_area.2 ⟨r, hr, col, Nat.lt_of_lt_of_le hcol h, rfl⟩

theorem Layout.places_subset_whole (layout : Layout) (h : columns ≤ 2 * chromaExtent layout.width) :
    layout.places columns ⊆ layout.whole :=
  Set.union_subset_union_right _ (layout.area_chroma_mono h _)

/-- What is missing from the whole if the chroma rows end early. -/
theorem Layout.Roomy.mem_whole_diff (h : layout.Roomy size) {i : Nat} :
    i ∈ layout.whole \ layout.places columns ↔ ∃ r < chromaExtent layout.height, ∃ col,
      columns ≤ col ∧ col < 2 * chromaExtent layout.width ∧
        i = (layout.chroma 0).start r + col := by
  have hpitch := h.chromaPitch
  constructor
  · rintro ⟨hluma | hchroma, hnot⟩
    · exact absurd (.inl hluma) hnot
    · obtain ⟨r, hr, col, hcol, rfl⟩ := Target.mem_area.1 hchroma
      refine ⟨r, hr, col, ?_, hcol, rfl⟩
      by_contra hlt
      exact hnot (.inr (Target.mem_area.2 ⟨r, hr, col, Nat.lt_of_not_le hlt, rfl⟩))
  · rintro ⟨r, hr, col, hle, hlt, rfl⟩
    have hmem : (layout.chroma 0).start r + col ∈
        (layout.chroma (2 * chromaExtent layout.width)).area (chromaExtent layout.height) :=
      Target.mem_area.2 ⟨r, hr, col, hlt, rfl⟩
    refine ⟨.inr hmem, ?_⟩
    rintro (hluma | hchroma)
    · exact Set.disjoint_left.1 h.apart hluma hmem
    · obtain ⟨s, -, other, hother, heq⟩ := Target.mem_area.1 hchroma
      have hother : other < columns := hother
      have hsame : col = other :=
        (layout.chroma 0).start_add_inj (s := s) (by change _ < layout.chromaPitch; omega)
          (by change _ < layout.chromaPitch; omega) heq
      omega

end Places

/-! ## Rows of one colour -/

/-- The first `count` rows of a source are there and have one colour. -/
def Plain (fill : UInt8) (width count : Nat) (source : Option (Nat → Option Bytes)) : Prop :=
  ∃ row?, source = some row? ∧ ∀ r < count, row? r = some (Array.replicate width fill)

theorem planeRow_replicate {stride rows width r : Nat} (fill : UInt8) (hwidth : width ≤ stride)
    (hr : r < rows) :
    planeRow (Array.replicate (stride * rows) fill, stride) width r =
      some (Array.replicate width fill) := by
  have hrows : (r + 1) * stride ≤ rows * stride := Nat.mul_le_mul_right _ hr
  rw [Nat.add_mul, Nat.one_mul, Nat.mul_comm rows] at hrows
  refine planeRow_eq_some_iff.2 ⟨?_, ?_⟩
  · rw [Array.size_replicate]
    dsimp only
    omega
  · rw [Array.extract_replicate]
    congr 1
    dsimp only
    omega

theorem interleave_replicate (fill : UInt8) (width : Nat) :
    interleave (.replicate width fill) (.replicate width fill) width =
      .replicate (2 * width) fill := by
  refine Array.ext (by simp) fun i hi _ => ?_
  have hlt : i / 2 < width := by
    rw [size_interleave] at hi
    omega
  simp [interleave, hlt]

/-- How many bytes of chroma a row of a packed image of some width has. -/
def packedChroma : ImageFormat → (width : Nat) → Nat
  | .nv12, width => width
  | .yuv420p, width | .vaapi, width => 2 * chromaExtent width

theorem packedChroma_le (format : ImageFormat) (width : Nat) :
    packedChroma format width ≤ 2 * chromaExtent width := by
  unfold packedChroma chromaExtent
  split <;> omega

section Filled

variable {format : ImageFormat} (layout : Layout) (fill : UInt8)

/-- An image of one colour, of the size of a layout. -/
abbrev Layout.image (format : ImageFormat) : SoftwareImage :=
  .filled format layout.width layout.height fill

theorem croppedSize_image : croppedSize layout (layout.image fill format) =
    (layout.width, layout.height) := by
  cases format <;> simp [croppedSize, SoftwareImage.filled]

theorem lumaTarget_image : lumaTarget layout (layout.image fill format) = layout.luma := by
  rw [lumaTarget, croppedSize_image]
  rfl

theorem chromaRows_image :
    chromaRows layout (layout.image fill format) = chromaExtent layout.height := by
  rw [chromaRows, croppedSize_image]

/-- Interleaved chroma is cut to its stride, which is the width. -/
theorem chromaWidth_image (hformat : format ≠ .vaapi) :
    chromaWidth layout (layout.image fill format) = packedChroma format layout.width := by
  have hpairs : layout.width ≤ 2 * chromaExtent layout.width := packedChroma_le .nv12 _
  cases format with
  | vaapi => exact absurd rfl hformat
  | yuv420p =>
    simp only [chromaWidth, croppedSize_image]
    rfl
  | nv12 =>
    simp only [chromaWidth, croppedSize_image]
    exact Nat.min_eq_right hpairs

theorem chromaTarget_image (hformat : format ≠ .vaapi) :
    chromaTarget layout (layout.image fill format) =
      layout.chroma (packedChroma format layout.width) := by
  rw [chromaTarget, chromaWidth_image layout fill hformat]
  rfl

variable (format) in
theorem plain_luma :
    Plain fill layout.width layout.height (lumaSource layout (layout.image fill format)) := by
  have hplane : (layout.image fill format).plane? 0 =
      some (Array.replicate (layout.width * layout.height) fill, layout.width) := by
    cases format <;> rfl
  refine ⟨_, lumaSource_eq hplane, fun r hr => ?_⟩
  rw [croppedSize_image]
  exact planeRow_replicate fill (Nat.le_refl _) hr

theorem plain_chroma (hformat : format ≠ .vaapi) :
    Plain fill (packedChroma format layout.width) (chromaExtent layout.height)
      (chromaSource layout (layout.image fill format)) := by
  cases format with
  | vaapi => exact absurd rfl hformat
  | nv12 =>
    refine ⟨_, chromaSource_of_nv12 rfl rfl, fun r hr => ?_⟩
    rw [chromaWidth_image layout fill hformat]
    exact planeRow_replicate fill (Nat.le_refl _) hr
  | yuv420p =>
    have hrow {r : Nat} (hr : r < chromaExtent layout.height) :=
      planeRow_replicate fill (Nat.le_refl (chromaExtent layout.width)) hr
    refine ⟨_, chromaSource_of_yuv420p rfl rfl rfl, fun r hr => ?_⟩
    rw [croppedSize_image]
    exact mergedRow_eq_some_iff.2 ⟨_, _, hrow hr, hrow hr, (interleave_replicate fill _).symm⟩

/-- Rows of one colour are written if they are not empty and their places are in the buffer. -/
theorem Plain.admits {width count size : Nat} {t : Target} {source : Option (Nat → Option Bytes)}
    (h : Plain fill width count source) (ht : 0 < t.width) (hin : ∀ i ∈ t.area count, i < size) :
    t.Admits count size source := by
  obtain ⟨row?, hsource, hrows⟩ := h
  refine ⟨row?, hsource, fun r hr => ⟨by simp [hrows r hr], Target.fits_iff.2 ?_⟩⟩
  have hlast := hin (t.start r + (t.width - 1)) (Target.mem_area.2 ⟨r, hr, _, by omega, rfl⟩)
  omega

variable {layout} {buffer : Bytes}

/-- No row of an image of one colour goes to the place of another. -/
theorem Layout.Roomy.pairwise (hroomy : layout.Roomy buffer.size) (hformat : format ≠ .vaapi) :
    (targetRows layout (layout.image fill format)).Pairwise Disjoint := by
  have hle := packedChroma_le format layout.width
  have hpairs : layout.width ≤ 2 * chromaExtent layout.width := packedChroma_le .nv12 _
  unfold targetRows
  rw [lumaTarget_image, chromaTarget_image layout fill hformat, chromaRows_image,
    croppedSize_image]
  refine List.pairwise_append.2 ⟨Target.pairwise_span (hpairs.trans hroomy.lumaPitch) _,
    Target.pairwise_span (hle.trans hroomy.chromaPitch) _, ?_⟩
  intro rows hrows others hothers
  obtain ⟨r, hr, rfl⟩ := List.mem_map.1 hrows
  obtain ⟨s, hs, rfl⟩ := List.mem_map.1 hothers
  have hluma : layout.luma.span r ⊆ layout.luma.area layout.height :=
    fun i hi => ⟨r, List.mem_range.1 hr, hi⟩
  have hchroma : (layout.chroma (packedChroma format layout.width)).span s ⊆
      (layout.chroma (packedChroma format layout.width)).area (chromaExtent layout.height) :=
    fun i hi => ⟨s, List.mem_range.1 hs, hi⟩
  exact Set.disjoint_of_subset hluma (hchroma.trans (layout.area_chroma_mono hle _)) hroomy.apart

theorem write_image_eq_none (hformat : format ≠ .vaapi) (hwidth : 0 < layout.width)
    (hroomy : layout.Roomy buffer.size) :
    (write layout (layout.image fill format) buffer).1 = none := by
  have hcolumns : 0 < packedChroma format layout.width := by
    unfold packedChroma chromaExtent
    split <;> omega
  have hsub := layout.places_subset_whole (packedChroma_le format layout.width)
  have hluma := plain_luma format layout fill
  have hchroma := plain_chroma layout fill hformat
  rw [write_eq_none_iff, lumaTarget_image, chromaTarget_image layout fill hformat,
    chromaRows_image, croppedSize_image]
  exact ⟨hluma.admits _ hwidth fun i hi => hroomy.inside i (.inl hi),
    hchroma.admits _ hcolumns fun i hi => hroomy.inside i (hsub (.inr hi))⟩

/-- **An image of one colour is written, and paints the places of its bytes.** -/
theorem paints_write (hformat : format ≠ .vaapi) (hwidth : 0 < layout.width)
    (hroomy : layout.Roomy buffer.size) :
    (write layout (layout.image fill format) buffer).1 = none ∧
    Paints (layout.places (packedChroma format layout.width)) fill buffer
      (write layout (layout.image fill format) buffer).2 := by
  have hdone := write_image_eq_none fill hformat hwidth hroomy
  have hapart := hroomy.pairwise fill hformat
  refine ⟨hdone, size_write layout (layout.image fill format) buffer, ?_, ?_⟩
  · rintro i (hi | hi)
    · obtain ⟨r, hr, col, hcol, rfl⟩ := Target.mem_area.1 hi
      obtain ⟨row?, hsource, hrows⟩ := plain_luma format layout fill
      have hinside : col < (lumaTarget layout (layout.image fill format)).width := by
        rwa [lumaTarget_image]
      have hplaced := getElem?_luma layout _ buffer hdone hapart hsource
        (by rwa [croppedSize_image]) (hrows r hr) hinside
      rw [lumaTarget_image] at hplaced
      exact hplaced.trans (Array.getElem?_replicate.trans (if_pos hcol))
    · obtain ⟨r, hr, col, hcol, rfl⟩ := Target.mem_area.1 hi
      obtain ⟨row?, hsource, hrows⟩ := plain_chroma layout fill hformat
      have hinside : col < (chromaTarget layout (layout.image fill format)).width := by
        rwa [chromaTarget_image layout fill hformat]
      have hplaced := getElem?_chroma layout _ buffer hdone hapart hsource
        (by rwa [chromaRows_image]) (hrows r hr) hinside
      rw [chromaTarget_image layout fill hformat] at hplaced
      exact hplaced.trans (Array.getElem?_replicate.trans (if_pos hcol))
  · intro i hi
    refine getElem?_write layout _ buffer fun rows hrows hmem => hi ?_
    rw [targetRows, lumaTarget_image, chromaTarget_image layout fill hformat, chromaRows_image,
      croppedSize_image, List.mem_append] at hrows
    rcases hrows with hrows | hrows
    · obtain ⟨r, hr, rfl⟩ := List.mem_map.1 hrows
      exact .inl ⟨r, List.mem_range.1 hr, hmem⟩
    · obtain ⟨r, hr, rfl⟩ := List.mem_map.1 hrows
      exact .inr ⟨r, List.mem_range.1 hr, hmem⟩

/-- The image is written, and every sample of the layout has its colour. -/
def Uploads (layout : Layout) (format : ImageFormat) (fill : UInt8) (buffer : Bytes) : Prop :=
  (write layout (layout.image fill format) buffer).1 = none ∧
  ∀ i ∈ layout.whole, (write layout (layout.image fill format) buffer).2[i]? = some fill

/-- The byte after the first `width` ones of each chroma row has a colour. -/
def Layout.LastColumn (layout : Layout) (fill : UInt8) (buffer : Bytes) : Prop :=
  ∀ r < chromaExtent layout.height,
    buffer[layout.chromaOffset + r * layout.chromaPitch + layout.width]? = some fill

/-- What interleaved chroma leaves out: nothing, or one column if the width is odd. -/
theorem Layout.Roomy.rest_iff (hroomy : layout.Roomy buffer.size) :
    (∀ i ∈ layout.whole \ layout.places layout.width, buffer[i]? = some fill) ↔
      layout.width % 2 = 0 ∨ layout.LastColumn fill buffer := by
  have hpairs : 2 * chromaExtent layout.width = layout.width + layout.width % 2 := by
    unfold chromaExtent
    omega
  constructor
  · intro hrest
    refine or_iff_not_imp_left.2 fun hodd r hr => hrest _ (hroomy.mem_whole_diff.2 ?_)
    exact ⟨r, hr, layout.width, Nat.le_refl _, by omega, rfl⟩
  · intro h i hi
    obtain ⟨r, hr, col, hle, hlt, rfl⟩ := hroomy.mem_whole_diff.1 hi
    rcases h with heven | hlast
    · omega
    · obtain rfl : col = layout.width := by omega
      exact hlast r hr

/-- **Interleaved chroma of odd width is not written to its end.** Writing an image of one colour
succeeds in either format. It paints all samples of the layout if the planes are separate. If the
chroma is interleaved, it paints them exactly if the width is even, or the last byte of every chroma
row had the colour before; and exactly then the two formats leave the same buffer. -/
theorem uploads_iff (hwidth : 0 < layout.width) (hroomy : layout.Roomy buffer.size) :
    Uploads layout .yuv420p fill buffer ∧
    (write layout (layout.image fill .nv12) buffer).1 = none ∧
    (Uploads layout .nv12 fill buffer ↔
      layout.width % 2 = 0 ∨ layout.LastColumn fill buffer) ∧
    ((write layout (layout.image fill .nv12) buffer).2 =
        (write layout (layout.image fill .yuv420p) buffer).2 ↔
      layout.width % 2 = 0 ∨ layout.LastColumn fill buffer) := by
  have hinterleaved : ImageFormat.nv12 ≠ .vaapi := nofun
  have hseparate : ImageFormat.yuv420p ≠ .vaapi := nofun
  obtain ⟨hdone, hpaints⟩ := paints_write fill hinterleaved hwidth hroomy
  obtain ⟨hdone', hpaints'⟩ := paints_write fill hseparate hwidth hroomy
  have hsub : layout.places layout.width ⊆ layout.whole :=
    layout.places_subset_whole (packedChroma_le .nv12 _)
  refine ⟨⟨hdone', fun i hi => hpaints'.inside hi⟩, hdone, ?_, ?_⟩
  · rw [← hroomy.rest_iff]
    exact (and_iff_right hdone).trans hpaints.whole_iff
  · rw [← hroomy.rest_iff]
    exact hpaints.eq_iff hpaints' hsub

end Filled

/-! ## Ordinary layouts -/

/-- There is room if the chroma comes after the luma and both planes end inside the buffer. -/
theorem Layout.roomy_of_stacked {layout : Layout} {size : Nat}
    (hluma : 2 * chromaExtent layout.width ≤ layout.lumaPitch)
    (hchroma : 2 * chromaExtent layout.width ≤ layout.chromaPitch)
    (hplanes : layout.lumaOffset + layout.height * layout.lumaPitch ≤ layout.chromaOffset)
    (hend : layout.chromaOffset + chromaExtent layout.height * layout.chromaPitch ≤ size) :
    layout.Roomy size := by
  have hpairs : layout.width ≤ 2 * chromaExtent layout.width := packedChroma_le .nv12 _
  have hbelow : ∀ i ∈ layout.luma.area layout.height, i < layout.chromaOffset := by
    intro i hi
    obtain ⟨r, hr, col, hcol, rfl⟩ := Target.mem_area.1 hi
    have hrows : (r + 1) * layout.lumaPitch ≤ layout.height * layout.lumaPitch :=
      Nat.mul_le_mul_right _ hr
    rw [Nat.add_mul, Nat.one_mul] at hrows
    have hcol : col < layout.width := hcol
    change layout.lumaOffset + r * layout.lumaPitch + col < _
    omega
  have habove : ∀ i ∈ (layout.chroma (2 * chromaExtent layout.width)).area
      (chromaExtent layout.height), layout.chromaOffset ≤ i ∧ i < size := by
    intro i hi
    obtain ⟨r, hr, col, hcol, rfl⟩ := Target.mem_area.1 hi
    have hrows : (r + 1) * layout.chromaPitch ≤ chromaExtent layout.height * layout.chromaPitch :=
      Nat.mul_le_mul_right _ hr
    rw [Nat.add_mul, Nat.one_mul] at hrows
    have hcol : col < 2 * chromaExtent layout.width := hcol
    change _ ≤ layout.chromaOffset + r * layout.chromaPitch + col ∧
      layout.chromaOffset + r * layout.chromaPitch + col < size
    omega
  refine ⟨hluma, hchroma, ?_, Set.disjoint_left.2 fun i hi hi' => ?_⟩
  · rintro i (hi | hi)
    · have := hbelow i hi
      omega
    · exact (habove i hi).2
  · have := hbelow i hi
    have := (habove i hi').1
    omega

/-- One column and one row, with room for a pair of chroma bytes. -/
def Layout.single : Layout := ⟨1, 1, 2, 2, 0, 2⟩

theorem Layout.roomy_single : Layout.single.Roomy 4 :=
  roomy_of_stacked (by decide) (by decide) (by decide) (by decide)

/-- The last byte of the only chroma row is missing in an empty buffer. -/
theorem not_uploads_single : Layout.single.Roomy (Array.replicate 4 (0 : UInt8)).size ∧
    write .single (.filled .nv12 1 1 7) (Array.replicate 4 0) = (none, #[7, 0, 7, 0]) ∧
    write .single (.filled .yuv420p 1 1 7) (Array.replicate 4 0) = (none, #[7, 0, 7, 7]) ∧
    ¬ Uploads .single .nv12 7 (Array.replicate 4 0) := by
  have hwritten : write .single (.filled .nv12 1 1 7) (Array.replicate 4 0) =
      (none, #[7, 0, 7, 0]) := by decide +kernel
  refine ⟨Layout.roomy_single, hwritten, by decide +kernel, fun h => ?_⟩
  have hmem : 3 ∈ Layout.single.whole :=
    .inr (Target.mem_area.2 ⟨0, by decide, 1, by decide, by decide⟩)
  have hbyte := h.2 3 hmem
  change (write .single (.filled .nv12 1 1 7) (Array.replicate 4 0)).2[3]? = _ at hbyte
  rw [hwritten] at hbyte
  cases hbyte

/-- It is not missing if it had the colour before. -/
theorem uploads_single : Uploads .single .nv12 7 #[0, 0, 0, 7] := by
  have hroomy : Layout.single.Roomy (#[0, 0, 0, 7] : Bytes).size := Layout.roomy_single
  obtain ⟨-, -, hnv12, -⟩ := uploads_iff 7 (by decide) hroomy
  have hlast : Layout.single.LastColumn 7 #[0, 0, 0, 7] := by
    unfold Layout.LastColumn
    decide
  exact hnv12.2 (.inr hlast)

end Deinterlace.Nv12
