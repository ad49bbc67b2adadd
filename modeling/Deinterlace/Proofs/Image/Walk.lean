import Deinterlace.Proofs.Image.Placement
import Mathlib.Algebra.GroupWithZero.Nat

/-!
# Writing with rows left to find

`Nv12.write` reckons with numbers of any size, a machine with words of 64 bits. A `Walk` is the same
copy that leaves open how a row is found, and a run of it tells which rows it looked up. Run with
exact numbers it is `Nv12.write` (`Walk.written_write`). Run with words it goes the same way as long
as all numbers that come up on the way are words (`Walk.run_congr`, `Lookup.findInWords?_eq`).
-/
namespace Deinterlace.Nv12

/-! ## Look-ups -/

/-- What rows are looked up in: a plane of the image, or of the buffer. -/
inductive Memory
  | source (plane : Nat)
  | target (plane : Nat)
deriving DecidableEq, Repr

def Memory.failure : Memory → Failure
  | .source _ => .sourceTooSmall
  | .target _ => .bufferTooSmall

/-- A memory of `size` bytes with rows of `width` bytes in it: the first starts at `offset`, and
each other `stride` after the one before. -/
structure Raster where
  memory : Memory
  size : Nat
  offset : Nat
  stride : Nat
  width : Nat
deriving DecidableEq, Repr

def Target.raster (t : Target) (plane size : Nat) : Raster :=
  ⟨.target plane, size, t.offset, t.pitch, t.width⟩

def planeRaster (index : Nat) (plane : Bytes × Nat) (width : Nat) : Raster :=
  ⟨.source index, plane.1.size, 0, plane.2, width⟩

/-- A row that is looked up, by its number. -/
structure Lookup where
  raster : Raster
  row : Nat
deriving DecidableEq, Repr

namespace Lookup

/-! The three numbers that are reckoned to look a row up. -/

def distance (l : Lookup) : Nat := l.row * l.raster.stride

def start (l : Lookup) : Nat := l.raster.offset + l.distance

def stop (l : Lookup) : Nat := l.start + l.raster.width

def Inside (l : Lookup) : Prop := l.stop ≤ l.raster.size

instance (l : Lookup) : Decidable l.Inside := inferInstanceAs (Decidable (_ ≤ _))

structure InWords (l : Lookup) : Prop where
  distance : l.distance < 2 ^ 64
  start : l.start < 2 ^ 64
  stop : l.stop < 2 ^ 64

/-- Where the row starts, if it is inside its memory. -/
def find? (l : Lookup) : Option Nat := if l.Inside then some l.start else none

/-! A machine reckons the same in words, which wrap around. -/

def startWord (l : Lookup) : UInt64 :=
  l.raster.offset.toUInt64 + l.row.toUInt64 * l.raster.stride.toUInt64

def stopWord (l : Lookup) : UInt64 := l.startWord + l.raster.width.toUInt64

/-- Where a machine sees the row start. A row that ends before it starts is not there either. -/
def findInWords? (l : Lookup) : Option Nat :=
  if l.startWord ≤ l.stopWord ∧ l.stopWord.toNat ≤ l.raster.size then some l.startWord.toNat
  else none

theorem find?_eq_some_iff {l : Lookup} {start : Nat} :
    l.find? = some start ↔ l.Inside ∧ start = l.start := by
  unfold find?
  split <;> simp_all [eq_comm]

theorem find?_eq_none_iff {l : Lookup} : l.find? = none ↔ ¬l.Inside := by
  unfold find?
  split <;> simp_all

theorem toNat_startWord (l : Lookup) : l.startWord.toNat = l.start % 2 ^ 64 := by
  simp only [startWord, UInt64.toNat_add, UInt64.toNat_mul, Nat.toUInt64, UInt64.toNat_ofNat']
  rw [← Nat.mul_mod, ← Nat.add_mod]
  rfl

theorem toNat_stopWord (l : Lookup) : l.stopWord.toNat = l.stop % 2 ^ 64 := by
  simp only [stopWord, UInt64.toNat_add, toNat_startWord, Nat.toUInt64, UInt64.toNat_ofNat']
  rw [← Nat.add_mod]
  rfl

/-- **A machine finds what there is to find**, as long as nothing wraps around. -/
theorem findInWords?_eq {l : Lookup} (h : l.InWords) : l.findInWords? = l.find? := by
  have hstart : l.startWord.toNat = l.start := by
    rw [toNat_startWord, Nat.mod_eq_of_lt h.start]
  have hstop : l.stopWord.toNat = l.stop := by
    rw [toNat_stopWord, Nat.mod_eq_of_lt h.stop]
  have hinside : (l.startWord ≤ l.stopWord ∧ l.stopWord.toNat ≤ l.raster.size) ↔ l.Inside := by
    rw [UInt64.le_iff_toNat_le, hstart, hstop]
    exact and_iff_right (Nat.le_add_right _ _)
  simp only [findInWords?, find?, hinside, hstart]

end Lookup

/-! ## Walks -/

/-- A write that leaves open how rows are found. A look-up goes on from where the row starts. If the
row is not there, writing is given up, and leaves the buffer as it is then. -/
inductive Walk
  | done (written : Written)
  | look (lookup : Lookup) (buffer : Bytes) (found : Nat → Walk)

/-- A write with the look-ups it took, in order. -/
structure Visit where
  written : Written
  lookups : List Lookup
deriving DecidableEq

namespace Walk

def run (find : Lookup → Option Nat) : Walk → Visit
  | done written => ⟨written, []⟩
  | look lookup buffer found =>
    match find lookup with
    | none => ⟨(some lookup.raster.memory.failure, buffer), [lookup]⟩
    | some start =>
      let rest := (found start).run find
      ⟨rest.written, lookup :: rest.lookups⟩

/-- Goes on with the buffer, unless writing has been given up. -/
def andThen (next : Bytes → Walk) : Walk → Walk
  | done (none, buffer) => next buffer
  | done (some failure, buffer) => done (some failure, buffer)
  | look lookup buffer found => look lookup buffer fun start => (found start).andThen next

/-- Copies one row, of the plane of that index. The target is looked at before the source. -/
def copyRow (index : Nat) (plane : Bytes × Nat) (t : Target) (row : Nat) (buffer : Bytes) : Walk :=
  look ⟨t.raster index buffer.size, row⟩ buffer fun start =>
  look ⟨planeRaster index plane t.width, row⟩ buffer fun first =>
  done (none, overwrite buffer start (plane.1.extract first (first + t.width)))

/-- Interleaves one row of two chroma planes. The sources are looked at before the target. -/
def mergeRow (u v : Bytes × Nat) (width : Nat) (t : Target) (row : Nat) (buffer : Bytes) : Walk :=
  look ⟨planeRaster 1 u width, row⟩ buffer fun uFirst =>
  look ⟨planeRaster 2 v width, row⟩ buffer fun vFirst =>
  look ⟨t.raster 1 buffer.size, row⟩ buffer fun start =>
  done (none, overwrite buffer start
    (interleave (u.1.extract uFirst (uFirst + width)) (v.1.extract vFirst (vFirst + width)) width))

def writeRows (step : Nat → Bytes → Walk) : (count row : Nat) → Bytes → Walk
  | 0, _, buffer => done (none, buffer)
  | count + 1, row, buffer => (step row buffer).andThen (writeRows step count (row + 1))

def writeLuma (layout : Layout) (image : SoftwareImage) (buffer : Bytes) : Walk :=
  match image.plane? 0 with
  | none => done (some .missingPlane, buffer)
  | some luma =>
    writeRows (copyRow 0 luma (lumaTarget layout image)) (croppedSize layout image).2 0 buffer

def writeChroma (layout : Layout) (image : SoftwareImage) (buffer : Bytes) : Walk :=
  let target := chromaTarget layout image
  let rows := chromaRows layout image
  match image.format with
  | .nv12 =>
    match image.plane? 1 with
    | none => done (some .missingPlane, buffer)
    | some uv => writeRows (copyRow 1 uv target) rows 0 buffer
  | .yuv420p =>
    match image.plane? 1, image.plane? 2 with
    | some u, some v =>
      writeRows (mergeRow u v (chromaExtent (croppedSize layout image).1) target) rows 0 buffer
    | _, _ => done (some .missingPlane, buffer)
  | .vaapi => done (some .hardwareFrame, buffer)

def write (layout : Layout) (image : SoftwareImage) (buffer : Bytes) : Walk :=
  (writeLuma layout image buffer).andThen (writeChroma layout image)

/-! ## Running a walk -/

variable {find : Lookup → Option Nat}

theorem run_look_of_none {lookup : Lookup} (buffer : Bytes) (found : Nat → Walk)
    (h : find lookup = none) :
    (look lookup buffer found).run find =
      ⟨(some lookup.raster.memory.failure, buffer), [lookup]⟩ := by
  rw [run, h]

theorem run_look_of_some {lookup : Lookup} (buffer : Bytes) (found : Nat → Walk) {start : Nat}
    (h : find lookup = some start) :
    (look lookup buffer found).run find =
      ⟨((found start).run find).written, lookup :: ((found start).run find).lookups⟩ := by
  rw [run, h]

theorem run_andThen (walk : Walk) (next : Bytes → Walk) :
    (walk.andThen next).run find =
      match walk.run find with
      | ⟨(none, buffer), lookups⟩ =>
        ⟨((next buffer).run find).written, lookups ++ ((next buffer).run find).lookups⟩
      | ⟨(some failure, buffer), lookups⟩ => ⟨(some failure, buffer), lookups⟩ := by
  induction walk with
  | done written =>
    obtain ⟨_ | failure, buffer⟩ := written <;> rfl
  | look lookup buffer found ih =>
    rw [andThen]
    cases hfind : find lookup with
    | none => rw [run_look_of_none _ _ hfind, run_look_of_none _ _ hfind]
    | some start =>
      rw [run_look_of_some _ _ hfind, run_look_of_some _ _ hfind, ih]
      rcases (found start).run find with ⟨⟨_ | failure, later⟩, lookups⟩ <;> rfl

/-- **Two ways to find rows that agree on all rows a walk looks up** come to the same. -/
theorem run_congr {other : Lookup → Option Nat} (walk : Walk)
    (h : ∀ l ∈ (walk.run find).lookups, other l = find l) : walk.run other = walk.run find := by
  induction walk with
  | done written => rfl
  | look lookup buffer found ih =>
    cases hfind : find lookup with
    | none =>
      rw [run_look_of_none _ _ hfind] at h ⊢
      have hother := (h lookup List.mem_cons_self).trans hfind
      exact run_look_of_none _ _ hother
    | some start =>
      rw [run_look_of_some _ _ hfind] at h ⊢
      have hother := (h lookup List.mem_cons_self).trans hfind
      rw [run_look_of_some _ _ hother, ih start fun l hl => h l (List.mem_cons_of_mem _ hl)]

theorem written_andThen (walk : Walk) (next : Bytes → Walk) :
    ((walk.andThen next).run find).written =
      match (walk.run find).written with
      | (none, buffer) => ((next buffer).run find).written
      | (some failure, buffer) => (some failure, buffer) := by
  rw [run_andThen]
  rcases walk.run find with ⟨⟨_ | failure, buffer⟩, lookups⟩ <;> rfl

/-! ## With exact numbers a walk is the copy -/

theorem inside_target {t : Target} {plane size row : Nat} :
    Lookup.Inside ⟨t.raster plane size, row⟩ ↔ t.fits row size = true :=
  Target.fits_iff.symm

theorem inside_source {index width row : Nat} {plane : Bytes × Nat} :
    Lookup.Inside ⟨planeRaster index plane width, row⟩ ↔
      row * plane.2 + width ≤ plane.1.size := by
  rw [← Nat.zero_add (row * plane.2)]
  rfl

theorem sourceRow_of_some {index width row : Nat} {plane : Bytes × Nat} {start : Nat}
    (h : Lookup.find? ⟨planeRaster index plane width, row⟩ = some start) :
    sourceRow plane row width = .ok (plane.1.extract start (start + width)) := by
  obtain ⟨hinside, rfl⟩ := Lookup.find?_eq_some_iff.1 h
  have hstart : Lookup.start ⟨planeRaster index plane width, row⟩ = row * plane.2 := Nat.zero_add _
  have hrow := rowAt_eq_some_iff.2 ⟨inside_source.1 hinside, rfl⟩
  rw [sourceRow, hrow, hstart]

theorem sourceRow_of_none {index width row : Nat} {plane : Bytes × Nat}
    (h : Lookup.find? ⟨planeRaster index plane width, row⟩ = none) :
    sourceRow plane row width = .error .sourceTooSmall := by
  have hnot : ¬row * plane.2 + width ≤ plane.1.size :=
    mt inside_source.2 (Lookup.find?_eq_none_iff.1 h)
  rw [sourceRow, rowAt, if_neg hnot]

theorem written_copyRow (index : Nat) (plane : Bytes × Nat) (t : Target) (row : Nat)
    (buffer : Bytes) :
    ((copyRow index plane t row buffer).run Lookup.find?).written =
      Nv12.copyRow plane t row buffer := by
  unfold copyRow Nv12.copyRow
  cases hinto : Lookup.find? ⟨t.raster index buffer.size, row⟩ with
  | none =>
    rw [run_look_of_none _ _ hinto, if_neg (mt inside_target.2 (Lookup.find?_eq_none_iff.1 hinto))]
    rfl
  | some start =>
    obtain ⟨hinside, rfl⟩ := Lookup.find?_eq_some_iff.1 hinto
    rw [run_look_of_some _ _ hinto, if_pos (inside_target.1 hinside)]
    cases hfrom : Lookup.find? ⟨planeRaster index plane t.width, row⟩ with
    | none =>
      rw [run_look_of_none _ _ hfrom, sourceRow_of_none hfrom]
      rfl
    | some first =>
      rw [run_look_of_some _ _ hfrom, sourceRow_of_some hfrom]
      rfl

theorem written_mergeRow (u v : Bytes × Nat) (width : Nat) (t : Target) (row : Nat)
    (buffer : Bytes) :
    ((mergeRow u v width t row buffer).run Lookup.find?).written =
      Nv12.mergeRow u v width t row buffer := by
  unfold mergeRow Nv12.mergeRow
  cases hu : Lookup.find? ⟨planeRaster 1 u width, row⟩ with
  | none =>
    rw [run_look_of_none _ _ hu, sourceRow_of_none hu]
    rfl
  | some uFirst =>
    rw [run_look_of_some _ _ hu, sourceRow_of_some hu]
    cases hv : Lookup.find? ⟨planeRaster 2 v width, row⟩ with
    | none =>
      rw [run_look_of_none _ _ hv, sourceRow_of_none hv]
      rfl
    | some vFirst =>
      rw [run_look_of_some _ _ hv, sourceRow_of_some hv]
      cases hinto : Lookup.find? ⟨t.raster 1 buffer.size, row⟩ with
      | none =>
        have hnot := mt inside_target.2 (Lookup.find?_eq_none_iff.1 hinto)
        rw [run_look_of_none _ _ hinto]
        dsimp only
        rw [if_neg hnot]
        rfl
      | some start =>
        obtain ⟨hinside, rfl⟩ := Lookup.find?_eq_some_iff.1 hinto
        rw [run_look_of_some _ _ hinto]
        dsimp only
        rw [if_pos (inside_target.1 hinside)]
        rfl

theorem written_writeRows {walk : Nat → Bytes → Walk} {step : Nat → Bytes → Written}
    (h : ∀ row buffer, ((walk row buffer).run find).written = step row buffer)
    (count row : Nat) (buffer : Bytes) :
    ((writeRows walk count row buffer).run find).written =
      Nv12.writeRows step count row buffer := by
  induction count generalizing row buffer with
  | zero => rfl
  | succ count ih =>
    rw [writeRows, written_andThen, h, Nv12.writeRows]
    rcases step row buffer with ⟨_ | failure, later⟩
    · exact ih (row + 1) later
    · rfl

theorem written_writeLuma (layout : Layout) (image : SoftwareImage) (buffer : Bytes) :
    ((writeLuma layout image buffer).run Lookup.find?).written =
      Nv12.writeLuma layout image buffer := by
  unfold writeLuma Nv12.writeLuma
  cases image.plane? 0 with
  | none => rfl
  | some luma => exact written_writeRows (written_copyRow 0 luma _) _ 0 buffer

theorem written_writeChroma (layout : Layout) (image : SoftwareImage) (buffer : Bytes) :
    ((writeChroma layout image buffer).run Lookup.find?).written =
      Nv12.writeChroma layout image buffer := by
  unfold writeChroma Nv12.writeChroma
  cases hformat : image.format with
  | vaapi => rfl
  | nv12 =>
    cases huv : image.plane? 1 with
    | none => rfl
    | some uv =>
      have hwidth : min (chromaExtent (croppedSize layout image).1 * 2) uv.2 =
          chromaWidth layout image := (chromaWidth_of_nv12 hformat huv).symm
      simp only [hwidth]
      exact written_writeRows (written_copyRow 1 uv _) _ 0 buffer
  | yuv420p =>
    cases image.plane? 1 with
    | none => rfl
    | some u =>
      cases image.plane? 2 with
      | none => rfl
      | some v =>
        have hwidth : chromaExtent (croppedSize layout image).1 * 2 = chromaWidth layout image :=
          (chromaWidth_of_yuv420p hformat).symm
        simp only [hwidth]
        exact written_writeRows (written_mergeRow u v _ _) _ 0 buffer

/-- **Run with exact numbers, a walk writes the image.** -/
theorem written_write (layout : Layout) (image : SoftwareImage) (buffer : Bytes) :
    ((write layout image buffer).run Lookup.find?).written = Nv12.write layout image buffer := by
  rw [write, written_andThen, written_writeLuma, Nv12.write]
  rcases Nv12.writeLuma layout image buffer with ⟨_ | failure, later⟩
  · exact written_writeChroma layout image later
  · rfl

end Walk

end Deinterlace.Nv12
