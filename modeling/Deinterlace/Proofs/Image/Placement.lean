import Deinterlace.Image.Nv12
import Mathlib.Data.Set.Lattice
import Mathlib.Order.CompletePartialOrder
import Mathlib.Order.Interval.Set.Basic

/-!
# Where the bytes of an image go

`Nv12.write` writes rows, those of the luma plane first and then those of the chroma plane. Both
planes are written in the same way: a row is looked up in the source, and is put where it belongs in
the target if it is there and fits (`RowStep`). So they share their lemmas. Writing succeeds exactly
if all rows are there and fit (`RowStep.none_iff`), it changes no byte outside their places
(`RowStep.getElem?_outside`), and if no two of those overlap every row is in its place in the end
(`RowStep.getElem?_row`). `Nv12.write_placed` puts the two planes together.
-/
namespace Deinterlace.Nv12

/-! ## Rows -/

namespace Target

/-- The places of the bytes of a row. -/
def span (t : Target) (row : Nat) : Set Nat := Set.Ico (t.start row) (t.start row + t.width)

theorem mem_span {t : Target} {row i : Nat} :
    i ∈ t.span row ↔ t.start row ≤ i ∧ i < t.start row + t.width := Set.mem_Ico

theorem start_add_mem_span {t : Target} {row col : Nat} (h : col < t.width) :
    t.start row + col ∈ t.span row := mem_span.2 ⟨by omega, by omega⟩

theorem fits_iff {t : Target} {row size : Nat} :
    t.fits row size = true ↔ t.start row + t.width ≤ size := decide_eq_true_iff

end Target

/-- A step that puts a row into its place, if there is one and it fits, and else does nothing. -/
structure RowStep (t : Target) (source : Nat → Option Bytes) (step : Nat → Bytes → Written) :
    Prop where
  size_eq {row : Nat} {bytes : Bytes} (hbytes : source row = some bytes) : bytes.size = t.width
  put {row : Nat} {bytes buffer : Bytes} (hbytes : source row = some bytes)
    (hfits : t.fits row buffer.size = true) :
    step row buffer = (none, overwrite buffer (t.start row) bytes)
  refuse {row : Nat} {buffer : Bytes}
    (h : source row = none ∨ t.fits row buffer.size = false) :
    ∃ failure, step row buffer = (some failure, buffer)

namespace RowStep

variable {t : Target} {source : Nat → Option Bytes} {step : Nat → Bytes → Written}

/-- The outcomes of a step. -/
theorem cases (h : RowStep t source step) (row : Nat) (buffer : Bytes) :
    (∃ bytes, source row = some bytes ∧ t.fits row buffer.size = true ∧
      step row buffer = (none, overwrite buffer (t.start row) bytes)) ∨
    ((source row = none ∨ t.fits row buffer.size = false) ∧
      ∃ failure, step row buffer = (some failure, buffer)) := by
  cases hbytes : source row with
  | none => exact .inr ⟨.inl rfl, h.refuse (.inl hbytes)⟩
  | some bytes =>
    cases hfits : t.fits row buffer.size with
    | true => exact .inl ⟨bytes, rfl, rfl, h.put hbytes hfits⟩
    | false => exact .inr ⟨.inr rfl, h.refuse (.inr hfits)⟩

theorem size_writeRows (h : RowStep t source step) (count row : Nat) (buffer : Bytes) :
    (writeRows step count row buffer).2.size = buffer.size := by
  induction count generalizing row buffer with
  | zero => rfl
  | succ count ih =>
    unfold writeRows
    rcases h.cases row buffer with ⟨bytes, -, -, heq⟩ | ⟨-, failure, heq⟩ <;> rw [heq]
    dsimp only
    rw [ih, size_overwrite]

/-- **Rows are written if all of them are there and fit**, and not otherwise. -/
theorem none_iff (h : RowStep t source step) (count row : Nat) (buffer : Bytes) :
    (writeRows step count row buffer).1 = none ↔
      ∀ r, row ≤ r → r < row + count → source r ≠ none ∧ t.fits r buffer.size = true := by
  induction count generalizing row buffer with
  | zero =>
    refine ⟨fun _ r hr hlt => ?_, fun _ => rfl⟩
    omega
  | succ count ih =>
    unfold writeRows
    rcases h.cases row buffer with ⟨bytes, hbytes, hfits, heq⟩ | ⟨hnot, failure, heq⟩ <;> rw [heq]
    · dsimp only
      rw [ih, size_overwrite]
      constructor
      · intro hrest r hr hlt
        by_cases hrow : r = row
        · subst hrow
          exact ⟨by simp [hbytes], hfits⟩
        · exact hrest r (by omega) (by omega)
      · intro hall r hr hlt
        exact hall r (by omega) (by omega)
    · refine ⟨nofun, fun hall => ?_⟩
      obtain ⟨hsome, hfits⟩ := hall row (Nat.le_refl row) (by omega)
      rcases hnot with hnone | hfull
      · exact absurd hnone hsome
      · cases hfits.symm.trans hfull

/-- **Bytes outside the places of the rows stay as they are**, also if writing fails. -/
theorem getElem?_outside (h : RowStep t source step) (count row : Nat) (buffer : Bytes) {i : Nat}
    (hi : ∀ r, row ≤ r → r < row + count → i ∉ t.span r) :
    (writeRows step count row buffer).2[i]? = buffer[i]? := by
  induction count generalizing row buffer with
  | zero => rfl
  | succ count ih =>
    unfold writeRows
    rcases h.cases row buffer with ⟨bytes, hbytes, hfits, heq⟩ | ⟨-, failure, heq⟩ <;> rw [heq]
    dsimp only
    have hnot := hi row (Nat.le_refl row) (by omega)
    have hsize := h.size_eq hbytes
    rw [ih (row + 1) _ fun r hr hlt => hi r (by omega) (by omega), getElem?_overwrite, hsize,
      if_neg (mt Target.mem_span.2 hnot)]
    rw [hsize]
    exact Target.fits_iff.1 hfits

/-- **Every row is in its place** if no two places overlap: the rows after it do not touch it. -/
theorem getElem?_row (h : RowStep t source step) (count row : Nat) (buffer : Bytes)
    (hdone : (writeRows step count row buffer).1 = none)
    (hapart : ∀ r s, row ≤ r → r < s → s < row + count → Disjoint (t.span r) (t.span s))
    {r col : Nat} {bytes : Bytes} (hr : row ≤ r) (hlt : r < row + count)
    (hbytes : source r = some bytes) (hcol : col < t.width) :
    (writeRows step count row buffer).2[t.start r + col]? = bytes[col]? := by
  induction count generalizing row buffer with
  | zero => omega
  | succ count ih =>
    unfold writeRows at hdone ⊢
    rcases h.cases row buffer with ⟨first, hfirst, hfits, heq⟩ | ⟨-, failure, heq⟩ <;>
      rw [heq] at hdone ⊢
    · dsimp only at hdone ⊢
      by_cases hrow : r = row
      · subst hrow
        cases hfirst.symm.trans hbytes
        have hsize := h.size_eq hbytes
        have hmem : t.start r + col ∈ t.span r := Target.start_add_mem_span hcol
        have hoff : t.start r + col - t.start r = col := by omega
        rw [h.getElem?_outside count (r + 1), getElem?_overwrite, hsize,
          if_pos (Target.mem_span.1 hmem), hoff]
        · rw [hsize]
          exact Target.fits_iff.1 hfits
        · intro s hs hslt
          exact Set.disjoint_left.1 (hapart r s (Nat.le_refl r) (by omega) (by omega)) hmem
      · exact ih (row + 1) _ hdone (fun r s hr hrs hs => hapart r s (by omega) hrs (by omega))
          (by omega) (by omega)
    · cases hdone

end RowStep

/-! ## The rows of the source -/

/-- A row of a plane, if it is there. -/
def planeRow (plane : Bytes × Nat) (width row : Nat) : Option Bytes :=
  rowAt plane.1 (row * plane.2) width

/-- A row of two planes, interleaved, if both are there. -/
def mergedRow (u v : Bytes × Nat) (width row : Nat) : Option Bytes :=
  (planeRow u width row).bind fun uBytes =>
    (planeRow v width row).map fun vBytes => interleave uBytes vBytes width

theorem planeRow_eq_some_iff {plane : Bytes × Nat} {width row : Nat} {bytes : Bytes} :
    planeRow plane width row = some bytes ↔ row * plane.2 + width ≤ plane.1.size ∧
      bytes = plane.1.extract (row * plane.2) (row * plane.2 + width) :=
  rowAt_eq_some_iff

theorem planeRow_ne_none_iff {plane : Bytes × Nat} {width row : Nat} :
    planeRow plane width row ≠ none ↔ row * plane.2 + width ≤ plane.1.size := by
  unfold planeRow rowAt
  split <;> simp_all

theorem size_planeRow {plane : Bytes × Nat} {width row : Nat} {bytes : Bytes}
    (h : planeRow plane width row = some bytes) : bytes.size = width := by
  obtain ⟨hin, rfl⟩ := planeRow_eq_some_iff.1 h
  rw [Array.size_extract]
  omega

theorem getElem?_planeRow {plane : Bytes × Nat} {width row col : Nat} {bytes : Bytes}
    (h : planeRow plane width row = some bytes) (hcol : col < width) :
    bytes[col]? = plane.1[row * plane.2 + col]? := by
  obtain ⟨hin, rfl⟩ := planeRow_eq_some_iff.1 h
  rw [Array.getElem?_extract, if_pos (by omega)]

/-- Interleaved rows have the bytes of the one at even and those of the other at odd places. -/
theorem getElem?_interleave {u v : Bytes} {width col : Nat} (hcol : col < width)
    (hu : u.size = width) (hv : v.size = width) :
    (interleave u v width)[2 * col]? = u[col]? ∧
      (interleave u v width)[2 * col + 1]? = v[col]? := by
  have heven : 2 * col / 2 = col := by omega
  have hodd : (2 * col + 1) / 2 = col := by omega
  have hlt : 2 * col < 2 * width := by omega
  have hlt' : 2 * col + 1 < 2 * width := by omega
  have hcol' : col < v.size := by omega
  subst hu
  constructor <;>
    simp [interleave, hlt, hlt', heven, hodd, hcol, hcol']

theorem sourceRow_eq (plane : Bytes × Nat) (row width : Nat) :
    sourceRow plane row width = (planeRow plane width row).elim (.error .sourceTooSmall) .ok := by
  unfold sourceRow planeRow
  cases rowAt plane.1 (row * plane.2) width <;> rfl

theorem rowStep_copyRow (plane : Bytes × Nat) (t : Target) :
    RowStep t (planeRow plane t.width) (copyRow plane t) where
  size_eq := size_planeRow
  put hbytes hfits := by
    rw [copyRow, if_pos hfits, sourceRow_eq, hbytes]
    rfl
  refuse {row buffer} h := by
    unfold copyRow
    rw [sourceRow_eq]
    rcases h with hnone | hfull
    · rw [hnone]
      split <;> exact ⟨_, rfl⟩
    · rw [if_neg (by simp [hfull])]
      exact ⟨_, rfl⟩

theorem mergedRow_eq_some_iff {u v : Bytes × Nat} {width row : Nat} {bytes : Bytes} :
    mergedRow u v width row = some bytes ↔ ∃ uBytes vBytes, planeRow u width row = some uBytes ∧
      planeRow v width row = some vBytes ∧ bytes = interleave uBytes vBytes width := by
  simp only [mergedRow, Option.bind_eq_some_iff, Option.map_eq_some_iff]
  constructor
  · rintro ⟨uBytes, hu, vBytes, hv, rfl⟩
    exact ⟨uBytes, vBytes, hu, hv, rfl⟩
  · rintro ⟨uBytes, vBytes, hu, hv, rfl⟩
    exact ⟨uBytes, hu, vBytes, hv, rfl⟩

theorem mergedRow_ne_none_iff {u v : Bytes × Nat} {width row : Nat} :
    mergedRow u v width row ≠ none ↔
      row * u.2 + width ≤ u.1.size ∧ row * v.2 + width ≤ v.1.size := by
  rw [← planeRow_ne_none_iff, ← planeRow_ne_none_iff]
  unfold mergedRow
  cases planeRow u width row <;> cases planeRow v width row <;> simp

theorem rowStep_mergeRow (u v : Bytes × Nat) {width : Nat} {t : Target} (ht : t.width = 2 * width) :
    RowStep t (mergedRow u v width) (mergeRow u v width t) where
  size_eq h := by
    obtain ⟨uBytes, vBytes, -, -, rfl⟩ := mergedRow_eq_some_iff.1 h
    rw [size_interleave, ht]
  put hbytes hfits := by
    obtain ⟨uBytes, vBytes, hu, hv, rfl⟩ := mergedRow_eq_some_iff.1 hbytes
    rw [mergeRow, sourceRow_eq, hu, sourceRow_eq, hv]
    dsimp only [Option.elim]
    rw [if_pos hfits]
  refuse {row buffer} h := by
    unfold mergeRow
    rw [sourceRow_eq, sourceRow_eq]
    cases hu : planeRow u width row with
    | none => exact ⟨_, rfl⟩
    | some uBytes =>
      cases hv : planeRow v width row with
      | none => exact ⟨_, rfl⟩
      | some vBytes =>
        have hmerged := mergedRow_eq_some_iff.2 ⟨uBytes, vBytes, hu, hv, rfl⟩
        rcases h with hnone | hfull
        · cases hmerged.symm.trans hnone
        · dsimp only [Option.elim]
          rw [if_neg (by simp [hfull])]
          exact ⟨_, rfl⟩

/-! ## The planes -/

section Planes

variable (layout : Layout) (image : SoftwareImage)

/-- How many bytes of every chroma row are written; none if the image has no chroma in memory. -/
def chromaWidth : Nat :=
  match image.format with
  | .nv12 => min (2 * chromaExtent (croppedSize layout image).1) (image.strides[1]?.getD 0)
  | .yuv420p => 2 * chromaExtent (croppedSize layout image).1
  | .vaapi => 0

/-- How many chroma rows are written. -/
def chromaRows : Nat := chromaExtent (croppedSize layout image).2

def lumaTarget : Target := ⟨layout.lumaOffset, layout.lumaPitch, (croppedSize layout image).1⟩

def chromaTarget : Target := ⟨layout.chromaOffset, layout.chromaPitch, chromaWidth layout image⟩

/-- The luma rows of an image, if it has luma. -/
def lumaSource : Option (Nat → Option Bytes) :=
  (image.plane? 0).map fun luma => planeRow luma (croppedSize layout image).1

/-- The chroma rows of an image as they are written, if it has chroma in memory. -/
def chromaSource : Option (Nat → Option Bytes) :=
  match image.format with
  | .nv12 => (image.plane? 1).map fun uv => planeRow uv (chromaWidth layout image)
  | .yuv420p => (image.plane? 1).bind fun u =>
      (image.plane? 2).map fun v => mergedRow u v (chromaExtent (croppedSize layout image).1)
  | .vaapi => none

variable {layout image}

theorem lumaSource_eq {luma : Bytes × Nat} (hplane : image.plane? 0 = some luma) :
    lumaSource layout image = some (planeRow luma (croppedSize layout image).1) := by
  rw [lumaSource, hplane, Option.map_some]

theorem chromaSource_of_nv12 {uv : Bytes × Nat} (hformat : image.format = .nv12)
    (hplane : image.plane? 1 = some uv) :
    chromaSource layout image = some (planeRow uv (chromaWidth layout image)) := by
  simp only [chromaSource, hformat, hplane, Option.map_some]

theorem chromaSource_of_yuv420p {u v : Bytes × Nat} (hformat : image.format = .yuv420p)
    (hu : image.plane? 1 = some u) (hv : image.plane? 2 = some v) :
    chromaSource layout image =
      some (mergedRow u v (chromaExtent (croppedSize layout image).1)) := by
  simp only [chromaSource, hformat, hu, hv, Option.bind_some, Option.map_some]

theorem stride_of_plane? {index : Nat} {plane : Bytes × Nat}
    (h : image.plane? index = some plane) : image.strides[index]?.getD 0 = plane.2 := by
  unfold SoftwareImage.plane? at h
  split at h
  · rename_i hstride
    cases h
    rw [hstride]
    rfl
  · cases h

theorem chromaWidth_of_nv12 {uv : Bytes × Nat} (hformat : image.format = .nv12)
    (hplane : image.plane? 1 = some uv) :
    chromaWidth layout image = min (chromaExtent (croppedSize layout image).1 * 2) uv.2 := by
  rw [chromaWidth, hformat, Nat.mul_comm, stride_of_plane? hplane]

theorem chromaWidth_of_yuv420p (hformat : image.format = .yuv420p) :
    chromaWidth layout image = chromaExtent (croppedSize layout image).1 * 2 := by
  rw [chromaWidth, hformat, Nat.mul_comm]

end Planes

/-- The first `count` rows of a source are there, and fit into a buffer of `size` bytes. -/
def Target.Admits (t : Target) (count size : Nat) (source : Option (Nat → Option Bytes)) : Prop :=
  ∃ row?, source = some row? ∧ ∀ r < count, row? r ≠ none ∧ t.fits r size = true

/-- A plane is written row by row, if there are rows to write. -/
inductive PlaneWrite (t : Target) (count : Nat) : Option (Nat → Option Bytes) →
    (Bytes → Written) → Prop
  | missing {write : Bytes → Written}
      (h : ∀ buffer, ∃ failure, write buffer = (some failure, buffer)) :
      PlaneWrite t count none write
  | rows {source : Nat → Option Bytes} {step : Nat → Bytes → Written} {write : Bytes → Written}
      (hstep : RowStep t source step) (h : ∀ buffer, write buffer = writeRows step count 0 buffer) :
      PlaneWrite t count (some source) write

namespace PlaneWrite

variable {t : Target} {count : Nat} {source : Option (Nat → Option Bytes)}
  {write : Bytes → Written}

theorem size_eq (h : PlaneWrite t count source write) (buffer : Bytes) :
    (write buffer).2.size = buffer.size := by
  cases h with
  | missing h =>
    obtain ⟨failure, heq⟩ := h buffer
    rw [heq]
  | rows hstep h => rw [h, hstep.size_writeRows]

theorem none_iff (h : PlaneWrite t count source write) (buffer : Bytes) :
    (write buffer).1 = none ↔ t.Admits count buffer.size source := by
  unfold Target.Admits
  cases h with
  | missing h =>
    obtain ⟨failure, heq⟩ := h buffer
    rw [heq]
    simp
  | rows hstep h =>
    rw [h, hstep.none_iff]
    simp

theorem getElem?_outside (h : PlaneWrite t count source write) (buffer : Bytes) {i : Nat}
    (hi : ∀ r < count, i ∉ t.span r) : (write buffer).2[i]? = buffer[i]? := by
  cases h with
  | missing h =>
    obtain ⟨failure, heq⟩ := h buffer
    rw [heq]
  | rows hstep h =>
    rw [h]
    exact hstep.getElem?_outside count 0 buffer fun r _ hr => hi r (by omega)

theorem getElem?_row (h : PlaneWrite t count source write) {buffer : Bytes}
    (hdone : (write buffer).1 = none)
    (hapart : ∀ r s, r < s → s < count → Disjoint (t.span r) (t.span s)) {row? : Nat → Option Bytes}
    (hsource : source = some row?) {r col : Nat} {bytes : Bytes} (hr : r < count)
    (hbytes : row? r = some bytes) (hcol : col < t.width) :
    (write buffer).2[t.start r + col]? = bytes[col]? := by
  cases h with
  | missing h => cases hsource
  | rows hstep h =>
    cases hsource
    rw [h] at hdone ⊢
    exact hstep.getElem?_row count 0 buffer hdone
      (fun r s _ hrs hs => hapart r s hrs (by omega)) (Nat.zero_le r) (by omega) hbytes hcol

end PlaneWrite

theorem planeWrite_luma (layout : Layout) (image : SoftwareImage) :
    PlaneWrite (lumaTarget layout image) (croppedSize layout image).2 (lumaSource layout image)
      (writeLuma layout image) := by
  unfold lumaSource
  cases hluma : image.plane? 0 with
  | none => exact .missing fun buffer => ⟨.missingPlane, by simp [writeLuma, hluma]⟩
  | some luma =>
    refine .rows (rowStep_copyRow luma (lumaTarget layout image)) fun buffer => ?_
    simp only [writeLuma, hluma]
    rfl

theorem planeWrite_chroma (layout : Layout) (image : SoftwareImage) :
    PlaneWrite (chromaTarget layout image) (chromaRows layout image) (chromaSource layout image)
      (writeChroma layout image) := by
  unfold chromaSource
  cases hformat : image.format with
  | vaapi => exact .missing fun buffer => ⟨.hardwareFrame, by simp [writeChroma, hformat]⟩
  | nv12 =>
    cases huv : image.plane? 1 with
    | none => exact .missing fun buffer => ⟨.missingPlane, by simp [writeChroma, hformat, huv]⟩
    | some uv =>
      refine .rows (rowStep_copyRow uv (chromaTarget layout image)) fun buffer => ?_
      simp only [writeChroma, hformat, huv, chromaTarget, chromaWidth_of_nv12 hformat huv]
      rfl
  | yuv420p =>
    cases hu : image.plane? 1 with
    | none => exact .missing fun buffer => ⟨.missingPlane, by simp [writeChroma, hformat, hu]⟩
    | some u =>
      cases hv : image.plane? 2 with
      | none => exact .missing fun buffer => ⟨.missingPlane, by simp [writeChroma, hformat, hu, hv]⟩
      | some v =>
        refine .rows (rowStep_mergeRow u v (t := chromaTarget layout image) ?_) fun buffer => ?_
        · simp only [chromaTarget, chromaWidth, hformat]
        · simp only [writeChroma, hformat, hu, hv, chromaTarget, chromaWidth_of_yuv420p hformat]
          rfl

/-! ## The image -/

/-- The places of all rows that are written. -/
def targetRows (layout : Layout) (image : SoftwareImage) : List (Set Nat) :=
  (List.range (croppedSize layout image).2).map (lumaTarget layout image).span ++
    (List.range (chromaRows layout image)).map (chromaTarget layout image).span

/-- The image has the planes of its format, and every row that is to be written lies in its plane,
and its place in a buffer of `size` bytes. -/
def Fits (layout : Layout) (image : SoftwareImage) (size : Nat) : Prop :=
  let width := min image.width layout.width
  let height := min image.height layout.height
  let half := (width + 1) / 2
  let rows := (height + 1) / 2
  (∃ luma lumaStride, image.plane? 0 = some (luma, lumaStride) ∧ ∀ row < height,
    row * lumaStride + width ≤ luma.size ∧
      layout.lumaOffset + row * layout.lumaPitch + width ≤ size) ∧
  match image.format with
  | .nv12 => ∃ uv stride, image.plane? 1 = some (uv, stride) ∧ ∀ row < rows,
      row * stride + min (2 * half) stride ≤ uv.size ∧
        layout.chromaOffset + row * layout.chromaPitch + min (2 * half) stride ≤ size
  | .yuv420p => ∃ u uStride v vStride, image.plane? 1 = some (u, uStride) ∧
      image.plane? 2 = some (v, vStride) ∧ ∀ row < rows,
        row * uStride + half ≤ u.size ∧ row * vStride + half ≤ v.size ∧
          layout.chromaOffset + row * layout.chromaPitch + 2 * half ≤ size
  | .vaapi => False

/-- The buffer shows the image: every byte of a row that is to be written is where the layout says,
the chroma planes interleaved if they are separate. -/
structure Shows (layout : Layout) (image : SoftwareImage) (buffer : Bytes) : Prop where
  luma {samples : Bytes} {stride row col : Nat} (hplane : image.plane? 0 = some (samples, stride))
    (hrow : row < min image.height layout.height) (hcol : col < min image.width layout.width) :
    buffer[layout.lumaOffset + row * layout.lumaPitch + col]? = samples[row * stride + col]?
  interleaved {uv : Bytes} {stride row col : Nat} (hformat : image.format = .nv12)
    (hplane : image.plane? 1 = some (uv, stride))
    (hrow : row < (min image.height layout.height + 1) / 2)
    (hcol : col < min (2 * ((min image.width layout.width + 1) / 2)) stride) :
    buffer[layout.chromaOffset + row * layout.chromaPitch + col]? = uv[row * stride + col]?
  separate {u v : Bytes} {uStride vStride row col : Nat} (hformat : image.format = .yuv420p)
    (hu : image.plane? 1 = some (u, uStride)) (hv : image.plane? 2 = some (v, vStride))
    (hrow : row < (min image.height layout.height + 1) / 2)
    (hcol : col < (min image.width layout.width + 1) / 2) :
    buffer[layout.chromaOffset + row * layout.chromaPitch + 2 * col]? = u[row * uStride + col]? ∧
    buffer[layout.chromaOffset + row * layout.chromaPitch + (2 * col + 1)]? =
      v[row * vStride + col]?

variable (layout : Layout) (image : SoftwareImage) (buffer : Bytes)

theorem write_cases : ∃ failure middle, writeLuma layout image buffer = (failure, middle) ∧
    (failure = none ∧ write layout image buffer = writeChroma layout image middle ∨
      failure ≠ none ∧ write layout image buffer = (failure, middle)) := by
  rcases hluma : writeLuma layout image buffer with ⟨_ | failure, middle⟩
  · exact ⟨none, middle, rfl, .inl ⟨rfl, by simp only [write, hluma]⟩⟩
  · exact ⟨some failure, middle, rfl, .inr ⟨nofun, by simp only [write, hluma]⟩⟩

/-- **Both planes have to be there and fit.** -/
theorem write_eq_none_iff : (write layout image buffer).1 = none ↔
    (lumaTarget layout image).Admits (croppedSize layout image).2 buffer.size
        (lumaSource layout image) ∧
      (chromaTarget layout image).Admits (chromaRows layout image) buffer.size
        (chromaSource layout image) := by
  have hluma := planeWrite_luma layout image
  have hchroma := planeWrite_chroma layout image
  rw [← hluma.none_iff]
  obtain ⟨failure, middle, heq, ⟨rfl, hwrite⟩ | ⟨hfailure, hwrite⟩⟩ :=
    write_cases layout image buffer
  · have hsize := hluma.size_eq buffer
    rw [heq] at hsize
    rw [hwrite, hchroma.none_iff, heq, ← hsize]
    simp
  · rw [hwrite, heq]
    simp [hfailure]

theorem fits_iff : Fits layout image buffer.size ↔
    (lumaTarget layout image).Admits (croppedSize layout image).2 buffer.size
        (lumaSource layout image) ∧
      (chromaTarget layout image).Admits (chromaRows layout image) buffer.size
        (chromaSource layout image) := by
  unfold Fits Target.Admits
  refine and_congr ?_ ?_
  · cases hluma : image.plane? 0 with
    | none => simp [lumaSource, hluma]
    | some luma =>
      obtain ⟨samples, stride⟩ := luma
      simp [lumaSource, hluma, planeRow_ne_none_iff, Target.fits_iff, Target.start, lumaTarget,
        croppedSize]
  · cases hformat : image.format with
    | vaapi => simp [chromaSource, hformat]
    | nv12 =>
      cases huv : image.plane? 1 with
      | none => simp [chromaSource, hformat, huv]
      | some uv =>
        obtain ⟨samples, stride⟩ := uv
        simp [chromaSource, hformat, huv, planeRow_ne_none_iff, Target.fits_iff, Target.start,
          chromaTarget, chromaRows, chromaWidth, croppedSize, chromaExtent, stride_of_plane? huv]
    | yuv420p =>
      cases hu : image.plane? 1 with
      | none => simp [chromaSource, hformat, hu]
      | some u =>
        cases hv : image.plane? 2 with
        | none => simp [chromaSource, hformat, hu, hv]
        | some v =>
          obtain ⟨uSamples, uStride⟩ := u
          obtain ⟨vSamples, vStride⟩ := v
          simp [chromaSource, hformat, hu, hv, mergedRow_ne_none_iff, Target.fits_iff, Target.start,
            chromaTarget, chromaRows, chromaWidth, croppedSize, chromaExtent, and_assoc]

theorem disjoint_span {t : Target} {count r s : Nat}
    (h : ((List.range count).map t.span).Pairwise Disjoint) (hrs : r < s) (hs : s < count) :
    Disjoint (t.span r) (t.span s) := by
  have hpair := List.pairwise_iff_getElem.1 h r s (by simp; omega) (by simp; omega) hrs
  simpa using hpair

/-- The luma is still there when the chroma has been written, if their places do not overlap. -/
theorem getElem?_luma (hdone : (write layout image buffer).1 = none)
    (hapart : (targetRows layout image).Pairwise Disjoint) {row? : Nat → Option Bytes}
    (hsource : lumaSource layout image = some row?) {r col : Nat} {bytes : Bytes}
    (hr : r < (croppedSize layout image).2) (hbytes : row? r = some bytes)
    (hcol : col < (lumaTarget layout image).width) :
    (write layout image buffer).2[(lumaTarget layout image).start r + col]? = bytes[col]? := by
  obtain ⟨hluma, -, hacross⟩ := List.pairwise_append.1 hapart
  obtain ⟨failure, middle, heq, ⟨rfl, hwrite⟩ | ⟨hfailure, hwrite⟩⟩ :=
    write_cases layout image buffer
  · have hplane := planeWrite_luma layout image
    rw [hwrite, (planeWrite_chroma layout image).getElem?_outside middle]
    · have hdone : (writeLuma layout image buffer).1 = none := by rw [heq]
      have hrow := hplane.getElem?_row hdone (fun r s => disjoint_span hluma) hsource hr hbytes hcol
      rw [heq] at hrow
      exact hrow
    · intro s hs
      have hdisjoint := hacross _ (List.mem_map_of_mem (List.mem_range.2 hr)) _
        (List.mem_map_of_mem (List.mem_range.2 hs))
      exact Set.disjoint_left.1 hdisjoint (Target.start_add_mem_span hcol)
  · rw [hwrite] at hdone
    exact absurd hdone hfailure

theorem getElem?_chroma (hdone : (write layout image buffer).1 = none)
    (hapart : (targetRows layout image).Pairwise Disjoint) {row? : Nat → Option Bytes}
    (hsource : chromaSource layout image = some row?) {r col : Nat} {bytes : Bytes}
    (hr : r < chromaRows layout image) (hbytes : row? r = some bytes)
    (hcol : col < (chromaTarget layout image).width) :
    (write layout image buffer).2[(chromaTarget layout image).start r + col]? = bytes[col]? := by
  obtain ⟨-, hchroma, -⟩ := List.pairwise_append.1 hapart
  obtain ⟨failure, middle, heq, ⟨rfl, hwrite⟩ | ⟨hfailure, hwrite⟩⟩ :=
    write_cases layout image buffer
  · rw [hwrite] at hdone ⊢
    exact (planeWrite_chroma layout image).getElem?_row hdone (fun r s => disjoint_span hchroma)
      hsource hr hbytes hcol
  · rw [hwrite] at hdone
    exact absurd hdone hfailure

/-- An image that was written is shown. -/
theorem shows_of_written (hdone : (write layout image buffer).1 = none)
    (hapart : (targetRows layout image).Pairwise Disjoint) :
    Shows layout image (write layout image buffer).2 := by
  obtain ⟨⟨luma, hluma, hlumaRows⟩, chroma, hchroma, hchromaRows⟩ :=
    (write_eq_none_iff layout image buffer).1 hdone
  refine ⟨?_, ?_, ?_⟩
  · intro samples stride row col hplane hrow hcol
    cases hluma.symm.trans (lumaSource_eq hplane)
    obtain ⟨bytes, hbytes⟩ := Option.ne_none_iff_exists'.1 (hlumaRows row hrow).1
    have hplaced := getElem?_luma layout image buffer hdone hapart hluma hrow hbytes hcol
    exact hplaced.trans (getElem?_planeRow hbytes hcol)
  · intro uv stride row col hformat hplane hrow hcol
    cases hchroma.symm.trans (chromaSource_of_nv12 hformat hplane)
    obtain ⟨bytes, hbytes⟩ := Option.ne_none_iff_exists'.1 (hchromaRows row hrow).1
    have hcol : col < chromaWidth layout image := by
      rw [chromaWidth_of_nv12 hformat hplane, Nat.mul_comm]
      exact hcol
    have hplaced := getElem?_chroma layout image buffer hdone hapart hchroma hrow hbytes hcol
    exact hplaced.trans (getElem?_planeRow hbytes hcol)
  · intro u v uStride vStride row col hformat hu hv hrow hcol
    cases hchroma.symm.trans (chromaSource_of_yuv420p hformat hu hv)
    obtain ⟨bytes, hbytes⟩ := Option.ne_none_iff_exists'.1 (hchromaRows row hrow).1
    have hcol : col < chromaExtent (croppedSize layout image).1 := hcol
    have hplaced : ∀ c < chromaExtent (croppedSize layout image).1 * 2,
        (write layout image buffer).2[(chromaTarget layout image).start row + c]? = bytes[c]? := by
      intro c hc
      rw [← chromaWidth_of_yuv420p hformat] at hc
      exact getElem?_chroma layout image buffer hdone hapart hchroma hrow hbytes hc
    obtain ⟨uBytes, vBytes, huBytes, hvBytes, rfl⟩ := mergedRow_eq_some_iff.1 hbytes
    obtain ⟨heven, hodd⟩ := getElem?_interleave hcol (size_planeRow huBytes) (size_planeRow hvBytes)
    rw [getElem?_planeRow huBytes hcol] at heven
    rw [getElem?_planeRow hvBytes hcol] at hodd
    exact ⟨(hplaced (2 * col) (by omega)).trans heven,
      (hplaced (2 * col + 1) (by omega)).trans hodd⟩

theorem size_write : (write layout image buffer).2.size = buffer.size := by
  have hluma := (planeWrite_luma layout image).size_eq buffer
  obtain ⟨failure, middle, heq, ⟨-, hwrite⟩ | ⟨-, hwrite⟩⟩ := write_cases layout image buffer <;>
    rw [heq] at hluma <;> rw [hwrite]
  · exact ((planeWrite_chroma layout image).size_eq middle).trans hluma
  · exact hluma

/-- Bytes where no row goes are not written. -/
theorem getElem?_write {i : Nat} (hi : ∀ places ∈ targetRows layout image, i ∉ places) :
    (write layout image buffer).2[i]? = buffer[i]? := by
  simp only [targetRows, List.mem_append, List.mem_map, List.mem_range] at hi
  have hluma : (writeLuma layout image buffer).2[i]? = buffer[i]? :=
    (planeWrite_luma layout image).getElem?_outside buffer fun r hr => hi _ (.inl ⟨r, hr, rfl⟩)
  obtain ⟨failure, middle, heq, ⟨-, hwrite⟩ | ⟨-, hwrite⟩⟩ := write_cases layout image buffer <;>
    rw [heq] at hluma <;> rw [hwrite]
  · rw [← hluma]
    exact (planeWrite_chroma layout image).getElem?_outside middle
      fun r hr => hi _ (.inr ⟨r, hr, rfl⟩)
  · exact hluma

/-- **An image is written exactly if it fits, and only where it belongs.** Writing succeeds exactly
if the image has its planes and all rows lie in them and in the buffer. If it does, and no two rows
go to the same places, the buffer shows the image. Whether it does or not, the buffer keeps its size
and all bytes outside the places of the rows. -/
theorem write_placed :
    ((write layout image buffer).1 = none ↔ Fits layout image buffer.size) ∧
    ((write layout image buffer).1 = none → (targetRows layout image).Pairwise Disjoint →
      Shows layout image (write layout image buffer).2) ∧
    (write layout image buffer).2.size = buffer.size ∧
    ∀ i, (∀ places ∈ targetRows layout image, i ∉ places) →
      (write layout image buffer).2[i]? = buffer[i]? :=
  ⟨(write_eq_none_iff layout image buffer).trans (fits_iff layout image buffer).symm,
    shows_of_written layout image buffer, size_write layout image buffer,
    fun _ => getElem?_write layout image buffer⟩

/-! ## Ordinary layouts -/

theorem Target.pairwise_span {t : Target} (h : t.width ≤ t.pitch) (count : Nat) :
    ((List.range count).map t.span).Pairwise Disjoint := by
  refine List.pairwise_map.2 (List.pairwise_lt_range.imp fun {r s} hrs => ?_)
  have hrows : (r + 1) * t.pitch ≤ s * t.pitch := Nat.mul_le_mul_right _ hrs
  rw [Nat.add_mul, Nat.one_mul] at hrows
  refine Set.disjoint_left.2 fun i hr hs => ?_
  rw [Target.mem_span, Target.start] at hr hs
  omega

variable {layout image}

/-- No two rows overlap if rows are no longer than their pitch and the chroma comes after the
luma. -/
theorem pairwise_targetRows (hluma : min image.width layout.width ≤ layout.lumaPitch)
    (hchroma : chromaWidth layout image ≤ layout.chromaPitch)
    (hplanes : layout.lumaOffset + min image.height layout.height * layout.lumaPitch ≤
      layout.chromaOffset) : (targetRows layout image).Pairwise Disjoint := by
  refine List.pairwise_append.2 ⟨Target.pairwise_span hluma _, Target.pairwise_span hchroma _, ?_⟩
  intro places hplaces others hothers
  obtain ⟨r, hr, rfl⟩ := List.mem_map.1 hplaces
  obtain ⟨s, -, rfl⟩ := List.mem_map.1 hothers
  have hrows : (r + 1) * layout.lumaPitch ≤ min image.height layout.height * layout.lumaPitch :=
    Nat.mul_le_mul_right _ (List.mem_range.1 hr)
  rw [Nat.add_mul, Nat.one_mul] at hrows
  refine Set.disjoint_left.2 fun i hi hi' => ?_
  obtain ⟨-, hbelow⟩ := Target.mem_span.1 hi
  obtain ⟨habove, -⟩ := Target.mem_span.1 hi'
  have hstart : (lumaTarget layout image).start r = layout.lumaOffset + r * layout.lumaPitch := rfl
  have hwidth : (lumaTarget layout image).width = min image.width layout.width := rfl
  have hbase : layout.chromaOffset ≤ (chromaTarget layout image).start s := Nat.le_add_right _ _
  omega

/-- An image of odd size in separate planes, for a surface that is narrower and higher. -/
def oddImage : SoftwareImage :=
  ⟨.yuv420p, 5, 3, [(List.range 15).toArray.map (·.toUInt8),
    #[20, 21, 22, 23, 24, 25], #[30, 31, 32, 33, 34, 35]], [5, 3, 3]⟩

/-- Three columns of it are written, and two of the chroma. -/
theorem written_oddImage :
    Shows ⟨3, 4, 4, 4, 0, 16⟩ oddImage
      (write ⟨3, 4, 4, 4, 0, 16⟩ oddImage (Array.replicate 24 9)).2 ∧
    (write ⟨3, 4, 4, 4, 0, 16⟩ oddImage (Array.replicate 24 9)).2 =
      #[0, 1, 2, 9, 5, 6, 7, 9, 10, 11, 12, 9, 9, 9, 9, 9, 20, 30, 21, 31, 23, 33, 24, 34] := by
  obtain ⟨-, hshows, -, -⟩ := write_placed ⟨3, 4, 4, 4, 0, 16⟩ oddImage (Array.replicate 24 9)
  have hapart : (targetRows ⟨3, 4, 4, 4, 0, 16⟩ oddImage).Pairwise Disjoint :=
    pairwise_targetRows (by decide) (by decide) (by decide)
  exact ⟨hshows (by decide +kernel) hapart, by decide +kernel⟩

end Deinterlace.Nv12
