import Deinterlace.Proofs.Image.Walk

/-!
# The addresses of rows

The height of an image times a stride need not be a word of 64 bits, so what keeps the addresses of
a copy in words is the order of its look-ups. They are those of a schedule, in turn, up to the first
that is not there (`Walk.follows_write`). So a row is looked up only after the one before it was
found in the same memory (`Walk.found_before`), and is no further away than that one and a stride
(`Lookup.inWords_of_inside`). `write_reckons_in_words` puts these together.
-/
namespace Deinterlace.Nv12

/-! ## The schedule -/

/-- Rows of some rasters, `count` of each: all that have one number, then all with the next. -/
def scan (rasters : List Raster) (count row : Nat) : List Lookup :=
  (List.range' row count).flatMap fun row => rasters.map (⟨·, row⟩)

def copyRasters (index : Nat) (plane : Bytes × Nat) (t : Target) (size : Nat) : List Raster :=
  [t.raster index size, planeRaster index plane t.width]

def mergeRasters (u v : Bytes × Nat) (width : Nat) (t : Target) (size : Nat) : List Raster :=
  [planeRaster 1 u width, planeRaster 2 v width, t.raster 1 size]

section Schedule

variable (layout : Layout) (image : SoftwareImage) (size : Nat)

def lumaRasters : List Raster :=
  match image.plane? 0 with
  | none => []
  | some luma => copyRasters 0 luma (lumaTarget layout image) size

def chromaRasters : List Raster :=
  match image.format with
  | .nv12 =>
    match image.plane? 1 with
    | none => []
    | some uv => copyRasters 1 uv (chromaTarget layout image) size
  | .yuv420p =>
    match image.plane? 1, image.plane? 2 with
    | some u, some v =>
      mergeRasters u v (chromaExtent (croppedSize layout image).1) (chromaTarget layout image) size
    | _, _ => []
  | .vaapi => []

/-- The rows that are looked up to write an image into a buffer of `size` bytes, if all of them are
there. -/
def schedule : List Lookup :=
  scan (lumaRasters layout image size) (croppedSize layout image).2 0 ++
    scan (chromaRasters layout image size) (chromaRows layout image) 0

end Schedule

theorem mem_scan {rasters : List Raster} {count row : Nat} {l : Lookup} :
    l ∈ scan rasters count row ↔ l.raster ∈ rasters ∧ row ≤ l.row ∧ l.row < row + count := by
  simp only [scan, List.mem_flatMap, List.mem_range'_1, List.mem_map]
  constructor
  · rintro ⟨row, hrow, raster, hraster, rfl⟩
    exact ⟨hraster, hrow⟩
  · rintro ⟨hraster, hrow⟩
    exact ⟨l.row, hrow, l.raster, hraster, rfl⟩

theorem pairwise_scan (rasters : List Raster) (count row : Nat) :
    (scan rasters count row).Pairwise fun k l => k.row ≤ l.row := by
  refine List.pairwise_flatMap.2 ⟨fun row _ => ?_, (List.pairwise_lt_range' ..).imp ?_⟩
  · exact List.pairwise_map.2 (List.pairwise_of_forall fun _ _ => Nat.le_refl row)
  · intro r s hrs k hk l hl
    obtain ⟨raster, -, rfl⟩ := List.mem_map.1 hk
    obtain ⟨other, -, rfl⟩ := List.mem_map.1 hl
    exact Nat.le_of_lt hrs

section Rasters

variable {layout : Layout} {image : SoftwareImage} {size : Nat} {raster : Raster}

theorem mem_copyRasters {index : Nat} {plane : Bytes × Nat} {t : Target} :
    raster ∈ copyRasters index plane t size ↔
      raster = t.raster index size ∨ raster = planeRaster index plane t.width := by
  simp [copyRasters]

theorem mem_mergeRasters {u v : Bytes × Nat} {width : Nat} {t : Target} :
    raster ∈ mergeRasters u v width t size ↔
      raster = planeRaster 1 u width ∨ raster = planeRaster 2 v width ∨
        raster = t.raster 1 size := by
  simp [mergeRasters]

theorem eq_of_mem_lumaRasters (h : raster ∈ lumaRasters layout image size) :
    raster = (lumaTarget layout image).raster 0 size ∨
    ∃ luma, image.plane? 0 = some luma ∧
      raster = planeRaster 0 luma (croppedSize layout image).1 := by
  unfold lumaRasters at h
  split at h
  · cases h
  · rename_i luma hluma
    rcases mem_copyRasters.1 h with rfl | rfl
    · exact .inl rfl
    · exact .inr ⟨luma, hluma, rfl⟩

theorem chromaWidth_le (layout : Layout) (image : SoftwareImage) :
    chromaWidth layout image ≤ 2 * chromaExtent (croppedSize layout image).1 := by
  unfold chromaWidth
  split
  · exact Nat.min_le_left _ _
  · exact Nat.le_refl _
  · exact Nat.zero_le _

theorem eq_of_mem_chromaRasters (h : raster ∈ chromaRasters layout image size) :
    raster = (chromaTarget layout image).raster 1 size ∨
    ∃ index plane width, 0 < index ∧ image.plane? index = some plane ∧
      width ≤ 2 * chromaExtent (croppedSize layout image).1 ∧
      raster = planeRaster index plane width := by
  have hhalf : chromaExtent (croppedSize layout image).1 ≤
      2 * chromaExtent (croppedSize layout image).1 := by omega
  unfold chromaRasters at h
  split at h
  · split at h
    · cases h
    · rename_i uv huv
      rcases mem_copyRasters.1 h with rfl | rfl
      · exact .inl rfl
      · exact .inr ⟨1, uv, _, Nat.one_pos, huv, chromaWidth_le layout image, rfl⟩
  · split at h
    · rename_i u v hu hv
      rcases mem_mergeRasters.1 h with rfl | rfl | rfl
      · exact .inr ⟨1, u, _, Nat.one_pos, hu, hhalf, rfl⟩
      · exact .inr ⟨2, v, _, Nat.two_pos, hv, hhalf, rfl⟩
      · exact .inl rfl
    · cases h
  · cases h

/-- The two planes of the buffer are written from different planes of the image. -/
theorem memory_ne {other : Raster} (h : raster ∈ lumaRasters layout image size)
    (hother : other ∈ chromaRasters layout image size) : raster.memory ≠ other.memory := by
  rcases eq_of_mem_lumaRasters h with rfl | ⟨luma, -, rfl⟩ <;>
    rcases eq_of_mem_chromaRasters hother with rfl | ⟨index, plane, width, hindex, -, -, rfl⟩
  · exact fun h => absurd (Memory.target.inj h) (by decide)
  · exact nofun
  · exact nofun
  · exact fun h => Nat.ne_of_lt hindex (Memory.source.inj h)

/-! ### The order of the schedule -/

theorem pairwise_schedule (layout : Layout) (image : SoftwareImage) (size : Nat) :
    (schedule layout image size).Pairwise fun k l =>
      k.raster.memory = l.raster.memory → k.row ≤ l.row := by
  have hscan (rasters : List Raster) (count : Nat) : (scan rasters count 0).Pairwise fun k l =>
      k.raster.memory = l.raster.memory → k.row ≤ l.row := by
    refine (pairwise_scan rasters count 0).imp ?_
    exact fun hle _ => hle
  refine List.pairwise_append.2 ⟨hscan _ _, hscan _ _, fun k hk l hl heq => ?_⟩
  exact absurd heq (memory_ne (mem_scan.1 hk).1 (mem_scan.1 hl).1)

theorem row_lt_of_mem_schedule {l : Lookup} (h : l ∈ schedule layout image size) :
    l.row < (croppedSize layout image).2 := by
  have hrows : chromaRows layout image ≤ (croppedSize layout image).2 := by
    unfold chromaRows chromaExtent
    omega
  rcases List.mem_append.1 h with hl | hl
  · have := (mem_scan.1 hl).2
    omega
  · have := (mem_scan.1 hl).2
    omega

/-- The row before a scheduled one is scheduled, and it is so before that one. -/
theorem mem_of_schedule_eq {earlier later : List Lookup} {l : Lookup} {row : Nat}
    (h : schedule layout image size = earlier ++ l :: later) (hrow : l.row = row + 1) :
    ⟨l.raster, row⟩ ∈ earlier := by
  have hl : l ∈ schedule layout image size := by
    rw [h]
    exact List.mem_append_right _ List.mem_cons_self
  have hbefore : ⟨l.raster, row⟩ ∈ schedule layout image size := by
    simp only [schedule, List.mem_append, mem_scan, hrow] at hl ⊢
    exact hl.imp (And.imp_right fun hlt => by omega) (And.imp_right fun hlt => by omega)
  have hpairwise := pairwise_schedule layout image size
  rw [h] at hbefore hpairwise
  rcases List.mem_append.1 hbefore with hearlier | hrest
  · exact hearlier
  -- What comes from `l` on in its memory is not of an earlier row.
  · rcases List.mem_cons.1 hrest with heq | hlater
    · have := congrArg Lookup.row heq
      dsimp only at this
      omega
    · have hle := (List.pairwise_cons.1 (List.pairwise_append.1 hpairwise).2.1).1 _ hlater rfl
      dsimp only at hle
      omega

end Rasters

/-! ## Walks keep to the schedule -/

namespace Walk

/-- Run with exact numbers, a walk looks up rows of a plan, in turn, and goes on after each as long
as it is inside its memory. If all goes well it has come to the end of the plan. -/
structure Follows (walk : Walk) (size : Nat) (plan : List Lookup) : Prop where
  size_eq : (walk.run Lookup.find?).written.2.size = size
  begins : (walk.run Lookup.find?).lookups <+: plan
  found : (walk.run Lookup.find?).lookups.Pairwise fun k _ => k.Inside
  ends (h : (walk.run Lookup.find?).written.1 = none) :
    (walk.run Lookup.find?).lookups = plan ∧ ∀ l ∈ plan, l.Inside

namespace Follows

variable {size : Nat} {plan : List Lookup}

theorem done {buffer : Bytes} (h : buffer.size = size) :
    (Walk.done (none, buffer)).Follows size [] :=
  ⟨h, List.prefix_rfl, .nil, fun _ => ⟨rfl, nofun⟩⟩

theorem failed {failure : Failure} {buffer : Bytes} (h : buffer.size = size)
    (plan : List Lookup) : (Walk.done (some failure, buffer)).Follows size plan :=
  ⟨h, List.nil_prefix, .nil, nofun⟩

theorem look {l : Lookup} {buffer : Bytes} {found : Nat → Walk} (hsize : buffer.size = size)
    (h : ∀ start, (found start).Follows size plan) :
    (Walk.look l buffer found).Follows size (l :: plan) := by
  cases hfind : l.find? with
  | none =>
    have hrun := run_look_of_none buffer found hfind
    refine ⟨?_, ?_, ?_, ?_⟩ <;> rw [hrun]
    · exact hsize
    · exact ⟨plan, rfl⟩
    · exact List.pairwise_singleton _ _
    · exact nofun
  | some start =>
    obtain ⟨hinside, -⟩ := Lookup.find?_eq_some_iff.1 hfind
    have hrun := run_look_of_some buffer found hfind
    have hrest := h start
    refine ⟨?_, ?_, ?_, ?_⟩ <;> rw [hrun]
    · exact hrest.size_eq
    · exact (List.prefix_cons_inj l).2 hrest.begins
    · exact List.pairwise_cons.2 ⟨fun _ _ => hinside, hrest.found⟩
    · intro hnone
      obtain ⟨heq, hall⟩ := hrest.ends hnone
      exact ⟨congrArg (l :: ·) heq, List.forall_mem_cons.2 ⟨hinside, hall⟩⟩

theorem andThen {walk : Walk} {next : Bytes → Walk} {rest : List Lookup}
    (h : walk.Follows size plan)
    (hnext : ∀ buffer : Bytes, buffer.size = size → (next buffer).Follows size rest) :
    (walk.andThen next).Follows size (plan ++ rest) := by
  obtain ⟨hsize, hbegins, hfound, hends⟩ := h
  have hrun := @run_andThen Lookup.find? walk next
  rcases heq : walk.run Lookup.find? with ⟨⟨_ | failure, buffer⟩, lookups⟩ <;>
    rw [heq] at hsize hbegins hfound hends hrun
  · obtain ⟨hlookups, hinside⟩ := hends rfl
    have hlater := hnext buffer hsize
    dsimp only at hlookups hrun
    subst hlookups
    refine ⟨?_, ?_, ?_, ?_⟩ <;> rw [hrun]
    · exact hlater.size_eq
    · exact (List.prefix_append_right_inj lookups).2 hlater.begins
    · exact List.pairwise_append.2 ⟨hfound, hlater.found, fun k hk _ _ => hinside k hk⟩
    · intro hnone
      obtain ⟨hrest, hall⟩ := hlater.ends hnone
      exact ⟨congrArg (lookups ++ ·) hrest, List.forall_mem_append.2 ⟨hinside, hall⟩⟩
  · refine ⟨?_, ?_, ?_, ?_⟩ <;> rw [hrun]
    · exact hsize
    · exact hbegins.trans (List.prefix_append plan rest)
    · exact hfound
    · exact nofun

end Follows

theorem follows_copyRow (index : Nat) (plane : Bytes × Nat) (t : Target) (row : Nat)
    (buffer : Bytes) :
    (copyRow index plane t row buffer).Follows buffer.size
      ((copyRasters index plane t buffer.size).map (⟨·, row⟩)) :=
  .look rfl fun _ => .look rfl fun _ => .done (size_overwrite _ _ _)

theorem follows_mergeRow (u v : Bytes × Nat) (width : Nat) (t : Target) (row : Nat)
    (buffer : Bytes) :
    (mergeRow u v width t row buffer).Follows buffer.size
      ((mergeRasters u v width t buffer.size).map (⟨·, row⟩)) :=
  .look rfl fun _ => .look rfl fun _ => .look rfl fun _ => .done (size_overwrite _ _ _)

/-- If every row is written by the same look-ups, a plane is written by a scan of them. -/
theorem follows_writeRows {step : Nat → Bytes → Walk} {rasters : Nat → List Raster}
    (h : ∀ row buffer,
      (step row buffer).Follows buffer.size ((rasters buffer.size).map (⟨·, row⟩)))
    (count row : Nat) (buffer : Bytes) :
    (writeRows step count row buffer).Follows buffer.size
      (scan (rasters buffer.size) count row) := by
  induction count generalizing row buffer with
  | zero => exact .done rfl
  | succ count ih =>
    refine (h row buffer).andThen fun later hlater => ?_
    rw [← hlater]
    exact ih (row + 1) later

variable (layout : Layout) (image : SoftwareImage) (buffer : Bytes)

theorem follows_writeLuma :
    (writeLuma layout image buffer).Follows buffer.size
      (scan (lumaRasters layout image buffer.size) (croppedSize layout image).2 0) := by
  unfold writeLuma lumaRasters
  cases image.plane? 0 with
  | none => exact .failed rfl _
  | some luma => exact follows_writeRows (follows_copyRow 0 luma _) _ 0 buffer

theorem follows_writeChroma :
    (writeChroma layout image buffer).Follows buffer.size
      (scan (chromaRasters layout image buffer.size) (chromaRows layout image) 0) := by
  unfold writeChroma chromaRasters
  cases image.format with
  | vaapi => exact .failed rfl _
  | nv12 =>
    cases image.plane? 1 with
    | none => exact .failed rfl _
    | some uv => exact follows_writeRows (follows_copyRow 1 uv _) _ 0 buffer
  | yuv420p =>
    cases image.plane? 1 with
    | none => exact .failed rfl _
    | some u =>
      cases image.plane? 2 with
      | none => exact .failed rfl _
      | some v => exact follows_writeRows (follows_mergeRow u v _ _) _ 0 buffer

/-- **Rows are looked up as scheduled, up to the first that is not there.** -/
theorem follows_write :
    (write layout image buffer).Follows buffer.size (schedule layout image buffer.size) := by
  refine (follows_writeLuma layout image buffer).andThen fun later hlater => ?_
  rw [← hlater]
  exact follows_writeChroma layout image later

/-- **A row is looked up after the one before it was found** in the same memory. -/
theorem found_before {earlier later : List Lookup} {l : Lookup} {row : Nat}
    (h : ((write layout image buffer).run Lookup.find?).lookups = earlier ++ l :: later)
    (hrow : l.row = row + 1) :
    ⟨l.raster, row⟩ ∈ earlier ∧ Lookup.Inside ⟨l.raster, row⟩ := by
  have hfollows := follows_write layout image buffer
  obtain ⟨rest, hrest⟩ := hfollows.begins
  have hfound := hfollows.found
  rw [h] at hrest hfound
  rw [List.append_assoc, List.cons_append] at hrest
  have hmem := mem_of_schedule_eq hrest.symm hrow
  exact ⟨hmem, (List.pairwise_append.1 hfound).2.2 _ hmem l List.mem_cons_self⟩

end Walk

/-! ## Addresses are words -/

/-- The numbers of a layout are such as the description of an image has: 16 bits for the size, and
32 for pitches and offsets. -/
structure Layout.Describable (layout : Layout) : Prop where
  width : layout.width < 2 ^ 16
  height : layout.height < 2 ^ 16
  lumaPitch : layout.lumaPitch < 2 ^ 32
  chromaPitch : layout.chromaPitch < 2 ^ 32
  lumaOffset : layout.lumaOffset < 2 ^ 32
  chromaOffset : layout.chromaOffset < 2 ^ 32

/-- Planes are shorter than 2⁶³ bytes, and strides are no longer than that. -/
structure Addressable (image : SoftwareImage) : Prop where
  planes : ∀ samples ∈ image.planes, samples.size < 2 ^ 63
  strides : ∀ stride ∈ image.strides, stride ≤ 2 ^ 63

/-- What is known of the rasters of a describable layout and an addressable image. -/
inductive Raster.Bounded : Raster → Prop
  | source {index size stride width : Nat} (hsize : size < 2 ^ 63) (hstride : stride ≤ 2 ^ 63)
      (hwidth : width ≤ 2 ^ 16) : Bounded ⟨.source index, size, 0, stride, width⟩
  | target {plane size offset stride width : Nat} (hoffset : offset < 2 ^ 32)
      (hstride : stride < 2 ^ 32) (hwidth : width ≤ 2 ^ 16) :
      Bounded ⟨.target plane, size, offset, stride, width⟩

theorem Addressable.bounded {image : SoftwareImage} (h : Addressable image) {index : Nat}
    {plane : Bytes × Nat} (hplane : image.plane? index = some plane) {width : Nat}
    (hwidth : width ≤ 2 ^ 16) : (planeRaster index plane width).Bounded := by
  unfold SoftwareImage.plane? at hplane
  split at hplane
  · rename_i samples stride hsamples hstride
    cases hplane
    exact .source (h.planes _ (List.mem_of_getElem? hsamples))
      (h.strides _ (List.mem_of_getElem? hstride)) hwidth
  · cases hplane

/-- **The row after one that is inside its memory has words for addresses.** A plane of the image
ends before 2⁶³, and a stride leads no further than that beyond it. The rows of the buffer are so
few that they need no such argument. -/
theorem Lookup.inWords_of_inside {l : Lookup} (h : l.raster.Bounded) (hrow : l.row < 2 ^ 16)
    (hbefore : ∀ row, l.row = row + 1 → Lookup.Inside ⟨l.raster, row⟩) : l.InWords := by
  obtain ⟨raster, row⟩ := l
  suffices hstop : Lookup.stop ⟨raster, row⟩ < 2 ^ 64 by
    have hle : Lookup.start ⟨raster, row⟩ ≤ Lookup.stop ⟨raster, row⟩ := Nat.le_add_right _ _
    have hle' : Lookup.distance ⟨raster, row⟩ ≤ Lookup.start ⟨raster, row⟩ := Nat.le_add_left _ _
    exact ⟨by omega, by omega, hstop⟩
  cases h with
  | @source index size stride width hsize hstride hwidth =>
    cases row with
    | zero =>
      show 0 + 0 * stride + width < 2 ^ 64
      omega
    | succ row =>
      -- The width of the row is in the bound already: the row before has the same.
      have hinside : 0 + row * stride + width ≤ size := hbefore row rfl
      show 0 + (row + 1) * stride + width < 2 ^ 64
      rw [Nat.add_mul]
      omega
  | @target plane size offset stride width hoffset hstride hwidth =>
    have hdistance : row * stride ≤ 2 ^ 16 * 2 ^ 32 := Nat.mul_le_mul hrow.le hstride.le
    show offset + row * stride + width < 2 ^ 64
    omega

variable {layout : Layout} {image : SoftwareImage}

theorem bounded_of_mem_schedule (hlayout : layout.Describable) (himage : Addressable image)
    {size : Nat} {l : Lookup} (h : l ∈ schedule layout image size) :
    l.raster.Bounded ∧ l.row < 2 ^ 16 := by
  have hheight : (croppedSize layout image).2 ≤ layout.height := Nat.min_le_right _ _
  have hwidth : 2 * chromaExtent (croppedSize layout image).1 ≤ 2 ^ 16 := by
    have hle : (croppedSize layout image).1 ≤ layout.width := Nat.min_le_right _ _
    have hlt := hlayout.width
    unfold chromaExtent
    omega
  have hluma : (croppedSize layout image).1 ≤ 2 ^ 16 := by
    unfold chromaExtent at hwidth
    omega
  have hchroma := (chromaWidth_le layout image).trans hwidth
  refine ⟨?_, (row_lt_of_mem_schedule h).trans_le (hheight.trans hlayout.height.le)⟩
  rcases List.mem_append.1 h with hl | hl
  · rcases eq_of_mem_lumaRasters (mem_scan.1 hl).1 with heq | ⟨luma, hplane, heq⟩ <;> rw [heq]
    · exact .target hlayout.lumaOffset hlayout.lumaPitch hluma
    · exact himage.bounded hplane hluma
  · rcases eq_of_mem_chromaRasters (mem_scan.1 hl).1 with
      heq | ⟨index, plane, width, -, hplane, hle, heq⟩ <;> rw [heq]
    · exact .target hlayout.chromaOffset hlayout.chromaPitch hchroma
    · exact himage.bounded hplane (hle.trans hwidth)

/-- All numbers reckoned on a walk are words. -/
theorem Walk.inWords_of_mem_lookups (hlayout : layout.Describable) (himage : Addressable image)
    {buffer : Bytes} {l : Lookup}
    (h : l ∈ ((write layout image buffer).run Lookup.find?).lookups) : l.InWords := by
  have hscheduled := (follows_write layout image buffer).begins.subset h
  obtain ⟨hbounded, hrow⟩ := bounded_of_mem_schedule hlayout himage hscheduled
  obtain ⟨earlier, later, heq⟩ := List.append_of_mem h
  exact Lookup.inWords_of_inside hbounded hrow fun row hrow =>
    (found_before layout image buffer heq hrow).2

/-! ## Rows out of reach -/

/-- An image with one column and five rows, one of whose planes has a stride of 2⁶³ bytes. -/
def stretched (format : ImageFormat) (plane : Nat) : SoftwareImage :=
  ⟨format, 1, 5, List.replicate 3 (Array.replicate 10 0), (List.replicate 3 2).set plane (2 ^ 63)⟩

def Layout.column : Layout := ⟨1, 5, 2, 2, 0, 10⟩

theorem Layout.describable_column : Layout.column.Describable := by
  constructor <;> decide

theorem addressable_stretched (format : ImageFormat) (plane : Nat) :
    Addressable (stretched format plane) := by
  constructor
  · intro samples hsamples
    rw [List.eq_of_mem_replicate hsamples]
    decide
  · intro stride hstride
    rcases List.mem_or_eq_of_mem_set hstride with hmem | rfl
    · rw [List.eq_of_mem_replicate hmem]
      decide
    · exact Nat.le_refl _

/-- The third row of the stretched plane is 2⁶⁴ bytes from the first, and it is scheduled, for a
buffer that has room for all rows. -/
theorem scheduled_stretched :
    ∀ p ∈ [(ImageFormat.nv12, 0), (.nv12, 1), (.yuv420p, 0), (.yuv420p, 1), (.yuv420p, 2)],
      ∃ l ∈ schedule .column (stretched p.1 p.2) 16, l.raster.memory = .source p.2 ∧
        2 ^ 64 ≤ l.distance ∧ 2 ^ 64 ≤ (stretched p.1 p.2).height * l.raster.stride := by
  decide +kernel

/-- **The addresses of rows are words.** While an image is written, every number that is reckoned to
look a row up is below 2⁶⁴: its distance from the first row, where it starts, and where it ends.
This is because a row other than the first is looked up only after the one before it was found
inside the same memory. So a machine, whose words wrap around, looks up the same rows and writes the
same bytes. The sizes alone do not bound the numbers: for every plane of either format there are a
layout and an image with a row on the schedule whose distance from the first is no word, and neither
is the height times the stride. -/
theorem write_reckons_in_words (hlayout : layout.Describable) (himage : Addressable image)
    (buffer : Bytes) :
    let visit := (Walk.write layout image buffer).run Lookup.find?
    visit.written = write layout image buffer ∧
    visit.lookups <+: schedule layout image buffer.size ∧
    (∀ l ∈ visit.lookups, l.distance < 2 ^ 64 ∧ l.start < 2 ^ 64 ∧ l.stop < 2 ^ 64) ∧
    (∀ earlier l later, visit.lookups = earlier ++ l :: later → 0 < l.row →
      ∃ k ∈ earlier, k.raster = l.raster ∧ k.row + 1 = l.row ∧ k.Inside) ∧
    (Walk.write layout image buffer).run Lookup.findInWords? = visit ∧
    ∀ p ∈ [(ImageFormat.nv12, 0), (.nv12, 1), (.yuv420p, 0), (.yuv420p, 1), (.yuv420p, 2)],
      ∃ narrow tall size, narrow.Describable ∧ Addressable tall ∧ tall.format = p.1 ∧
        ∃ l ∈ schedule narrow tall size, l.raster.memory = .source p.2 ∧
          2 ^ 64 ≤ l.distance ∧ 2 ^ 64 ≤ tall.height * l.raster.stride := by
  have hwords : ∀ l ∈ ((Walk.write layout image buffer).run Lookup.find?).lookups, l.InWords :=
    fun l hl => Walk.inWords_of_mem_lookups hlayout himage hl
  refine ⟨Walk.written_write layout image buffer, (Walk.follows_write layout image buffer).begins,
    fun l hl => ⟨(hwords l hl).distance, (hwords l hl).start, (hwords l hl).stop⟩, ?_, ?_, ?_⟩
  · intro earlier l later heq hpos
    obtain ⟨row, hrow⟩ := Nat.exists_eq_add_one_of_ne_zero (Nat.ne_of_gt hpos)
    obtain ⟨hmem, hinside⟩ := Walk.found_before layout image buffer heq hrow
    exact ⟨_, hmem, rfl, hrow.symm, hinside⟩
  · exact Walk.run_congr _ fun l hl => Lookup.findInWords?_eq (hwords l hl)
  · intro p hp
    exact ⟨.column, stretched p.1 p.2, 16, Layout.describable_column, addressable_stretched _ _,
      rfl, scheduled_stretched p hp⟩

/-- The second row of a stretched plane is 2⁶³ bytes from the first and not there. It is the last
row that a machine looks up. -/
theorem write_reckons_in_words_stretched :
    let walk := Walk.write .column (stretched .yuv420p 2) (Array.replicate 16 9)
    Layout.column.Describable ∧ Addressable (stretched .yuv420p 2) ∧
    (walk.run Lookup.findInWords?).written =
      (some .sourceTooSmall, #[0, 9, 0, 9, 0, 9, 0, 9, 0, 9, 0, 0, 9, 9, 9, 9]) ∧
    (walk.run Lookup.findInWords?).lookups.getLast? =
      some ⟨⟨.source 2, 10, 0, 2 ^ 63, 1⟩, 1⟩ ∧
    ∀ l ∈ (walk.run Lookup.findInWords?).lookups,
      l.distance < 2 ^ 64 ∧ l.start < 2 ^ 64 ∧ l.stop < 2 ^ 64 := by
  have hlayout := Layout.describable_column
  have himage := addressable_stretched .yuv420p 2
  obtain ⟨hwritten, -, hwords, -, hmachine, -⟩ :=
    write_reckons_in_words hlayout himage (Array.replicate 16 9)
  refine ⟨hlayout, himage, ?_, ?_, ?_⟩
  · rw [hmachine, hwritten]
    decide +kernel
  · rw [hmachine]
    decide +kernel
  · rwa [hmachine]

end Deinterlace.Nv12
