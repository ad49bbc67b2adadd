import Deinterlace.Proofs.Va.Log
import Deinterlace.Va.Driver

/-!
# Uploading through an image

To copy a frame onto a surface a VA device has the driver derive an image of the surface, maps the
bytes of the image, writes them, and gives the mapping and the image back. There are three ways out
of an upload (`Display.leaves_upload`), and where there is an image, four ways out of writing it
(`Display.leaves_writeImage`). On each of them what was derived is destroyed and what was mapped is
unmapped, once and in the opposite order, and nothing is written outside a mapping
(`Display.upload_balanced`). What the bytes hold before they are written is up to the driver.
-/
namespace Deinterlace.Va

/-- An image that frames can be written into: NV12, with both planes. -/
def Image.IsNv12 (image : Image) : Prop := image.format = nv12Code ∧ 2 ≤ image.planes

/-- The calls among some events. -/
def callsOf (events : List Event) : List Call := events.filterMap Event.call?

variable {δ : Type} [Library δ]

/-- The image can be written into, and the driver maps its bytes to an address. -/
structure Image.MapsTo (image : Image) (driver : δ) (address : Address) : Prop where
  isNv12 : image.IsNv12
  status : (Library.call (.mapBuffer image.buffer) driver).1 = success
  address_eq : (Library.call (.mapBuffer image.buffer) driver).2.1 = some address

/-- What it comes to when a frame is written into the bytes to which an image has been mapped. -/
def Image.written (image : Image) (driver : δ) (source : SoftwareImage) (address : Address) :
    Nv12.Written :=
  let mapped := (Library.call (.mapBuffer image.buffer) driver).2.2
  Nv12.write ⟨image.width, image.height, image.lumaPitch, image.chromaPitch, image.lumaOffset,
    image.chromaOffset⟩ source (Library.read address image.dataSize mapped).toArray

namespace Display

/-! ## Writing an image -/

/-- The ways out of writing an image: the answer, and what passes through the interface. -/
inductive Writes (image : Image) (source : SoftwareImage) (driver : δ) :
    Except DeviceError Unit → List Event → Prop
  | notNv12 (e : DeviceError) (h : ¬image.IsNv12) : Writes image source driver (.error e) []
  | notMapped (e : DeviceError) (status : Int) (output : Option Address) (asked : Int)
      (text : Option String) (hnv12 : image.IsNv12) (h : ∀ address, ¬image.MapsTo driver address) :
      Writes image source driver (.error e)
        [.called (.mapBuffer image.buffer) status output, .called (.errorString status) asked text]
  | mappedToNothing (e : DeviceError) (hnv12 : image.IsNv12)
      (h : ∀ address, ¬image.MapsTo driver address) :
      Writes image source driver (.error e) [.called (.mapBuffer image.buffer) success none]
  | mapped (result : Except DeviceError Unit) (address : Address) (unmapping : Int)
      (h : image.MapsTo driver address)
      (hresult : result = .ok () ↔ (image.written driver source address).1 = none) :
      Writes image source driver result
        [.called (.mapBuffer image.buffer) success (some address),
          .wrote address (.bytes (image.written driver source address).2),
          .called (.unmapBuffer image.buffer) unmapping ()]

omit [Library δ] in
theorem guard_iff (image : Image) :
    (image.format != nv12Code || decide (image.planes < 2)) = true ↔ ¬image.IsNv12 := by
  unfold Image.IsNv12
  by_cases hformat : image.format = nv12Code <;> simp [hformat]

/-- Where the bytes are mapped, the answer is that of writing them, and they are unmapped as far as
they were written. -/
theorem writeImage_of_mapsTo {image : Image} (source : SoftwareImage) {d : Display (Logged δ)}
    {address : Address} (h : image.MapsTo d.driver.driver address) :
    let written := image.written d.driver.driver source address
    ((d.writeImage image source).1 = .ok () ↔ written.1 = none) ∧ ∃ unmapping,
      (d.writeImage image source).2.driver.log = .called (.unmapBuffer image.buffer) unmapping () ::
        .wrote address (.bytes written.2) ::
        .called (.mapBuffer image.buffer) success (some address) :: d.driver.log := by
  intro written
  let mapped := (Library.call (.mapBuffer image.buffer) d.driver).2.2
  let later := Library.write address (.bytes written.2) mapped
  have hask : d.ask (.mapBuffer image.buffer) =
      (.ok (some address), { d with driver := mapped }) := by
    rw [ask_of_success h.status]
    exact Prod.ext (congrArg Except.ok h.address_eq) rfl
  have hlog : mapped.log =
      .called (.mapBuffer image.buffer) success (some address) :: d.driver.log := by
    rw [← h.status, ← h.address_eq]
    rfl
  have hlater : (run (.unmapBuffer image.buffer) { d with driver := later }).driver.log =
      .called (.unmapBuffer image.buffer) (Library.call (.unmapBuffer image.buffer) later).1 () ::
        .wrote address (.bytes written.2) :: mapped.log := rfl
  rw [hlog] at hlater
  unfold writeImage
  rw [if_neg (mt (guard_iff image).1 (not_not_intro h.isNv12)), hask]
  dsimp only
  split
  · rename_i hnone
    exact ⟨⟨fun _ => hnone, fun _ => rfl⟩, _, hlater⟩
  · rename_i failure hfailure
    refine ⟨⟨nofun, fun hnone => ?_⟩, _, hlater⟩
    exact absurd (hnone.symm.trans hfailure) nofun

theorem leaves_writeImage (image : Image) (source : SoftwareImage) (d : Display (Logged δ)) :
    ∃ events, (d.writeImage image source).2.driver.log = events.reverse ++ d.driver.log ∧
      Writes image source d.driver.driver (d.writeImage image source).1 events := by
  by_cases hmaps : ∃ address, image.MapsTo d.driver.driver address
  · obtain ⟨address, hmaps⟩ := hmaps
    obtain ⟨hresult, unmapping, hlog⟩ := writeImage_of_mapsTo source hmaps
    exact ⟨[_, _, _], hlog, .mapped _ address unmapping hmaps hresult⟩
  · have hmaps := not_exists.1 hmaps
    unfold writeImage
    by_cases hnv12 : image.IsNv12
    · rw [if_neg (mt (guard_iff image).1 (not_not_intro hnv12))]
      by_cases hstatus : (Library.call (.mapBuffer image.buffer) d.driver).1 = success
      · cases houtput : (Library.call (.mapBuffer image.buffer) d.driver).2.1 with
        | some address => exact absurd ⟨hnv12, hstatus, houtput⟩ (hmaps address)
        | none =>
          have hlog : (Library.call (.mapBuffer image.buffer) d.driver).2.2.log =
              [.called (.mapBuffer image.buffer) success none].reverse ++ d.driver.log := by
            rw [← hstatus, ← houtput]
            rfl
          rw [ask_of_success hstatus, houtput]
          exact ⟨_, hlog, .mappedToNothing _ hnv12 hmaps⟩
      · rw [ask_of_failure hstatus]
        exact ⟨[_, _], rfl, .notMapped _ _ _ _ _ hnv12 hmaps⟩
    · rw [if_pos ((guard_iff image).2 hnv12)]
      exact ⟨[], rfl, .notNv12 _ hnv12⟩

namespace Writes

variable {image : Image} {source : SoftwareImage} {driver : δ} {result : Except DeviceError Unit}
  {events : List Event} (h : Writes image source driver result events)
include h

theorem destroys_nothing : (callsOf events).filter (·.entry = .destroyImage) = [] := by
  cases h <;> rfl

theorem maps_nothing (hnv12 : ¬image.IsNv12) :
    (callsOf events).filter (·.entry = .mapBuffer) = [] := by
  cases h with
  | notNv12 => rfl
  | notMapped e status output asked text hnv12' => exact absurd hnv12' hnv12
  | mappedToNothing e hnv12' => exact absurd hnv12' hnv12
  | mapped result address unmapping hmaps => exact absurd hmaps.isNv12 hnv12

/-- Without a mapping nothing is unmapped and nothing is written. -/
theorem of_not_mapsTo (hmaps : ∀ address, ¬image.MapsTo driver address) :
    (callsOf events).filter (·.entry = .unmapBuffer) = [] ∧
      (∀ address patch, .wrote address patch ∉ events) ∧ result ≠ .ok () := by
  cases h with
  | mapped result address unmapping hmaps' => exact absurd hmaps' (hmaps address)
  | _ => exact ⟨rfl, by simp, nofun⟩

theorem of_mapsTo {address : Address} (hmaps : image.MapsTo driver address) :
    (∃ unmapping, events = [.called (.mapBuffer image.buffer) success (some address),
      .wrote address (.bytes (image.written driver source address).2),
      .called (.unmapBuffer image.buffer) unmapping ()]) ∧
      (result = .ok () ↔ (image.written driver source address).1 = none) := by
  cases h with
  | notNv12 e hnv12 => exact absurd hmaps.isNv12 hnv12
  | notMapped e status output asked text hnv12 hnot => exact absurd hmaps (hnot address)
  | mappedToNothing e hnv12 hnot => exact absurd hmaps (hnot address)
  | mapped result address' unmapping hmaps' hresult =>
    obtain rfl : address' = address :=
      Option.some.inj (hmaps'.address_eq.symm.trans hmaps.address_eq)
    exact ⟨⟨unmapping, rfl⟩, hresult⟩

end Writes

/-! ## The ways out of an upload -/

/-- What the driver answers when it is asked for an image of the surface. -/
def derived (target : Surface) (driver : δ) : Reply δ Image :=
  Library.call (.deriveImage target.id.value) driver

/-- The ways out of an upload: the answer, and what passes through the interface. -/
inductive Leaves (target : Surface) (frame : Frame) (driver : δ) :
    Except DeviceError Unit → List Event → Prop
  | noImage (e : DeviceError) (h : frame.image? = none) : Leaves target frame driver (.error e) []
  | notDerived (e : DeviceError) (asked : Int) (text : Option String)
      (hmemory : frame.image? ≠ none) (h : (derived target driver).1 ≠ success) :
      Leaves target frame driver (.error e)
        [.called (.deriveImage target.id.value) (derived target driver).1
          (derived target driver).2.1,
          .called (.errorString (derived target driver).1) asked text]
  | wasDerived (result : Except DeviceError Unit) (source : SoftwareImage) (events : List Event)
      (destroying : Int) (hsource : frame.image? = some source)
      (h : (derived target driver).1 = success)
      (hwrites : Writes (derived target driver).2.1 source (derived target driver).2.2 result
        events) :
      Leaves target frame driver result
        (.called (.deriveImage target.id.value) success (derived target driver).2.1 :: events ++
          [.called (.destroyImage (derived target driver).2.1.id) destroying ()])

theorem leaves_upload (target : Surface) (frame : Frame) (d : Display (Logged δ)) :
    ∃ events, (d.upload target frame).2.driver.log = events.reverse ++ d.driver.log ∧
      Leaves target frame d.driver.driver (d.upload target frame).1 events := by
  unfold upload
  cases hsource : frame.image? with
  | none => exact ⟨[], rfl, .noImage _ hsource⟩
  | some source =>
    by_cases hstatus : (Library.call (.deriveImage target.id.value) d.driver).1 = success
    · let image := (derived target d.driver.driver).2.1
      let asked := (Library.call (.deriveImage target.id.value) d.driver).2.2
      let written := writeImage image source { d with driver := asked }
      have hlog : asked.log =
          .called (.deriveImage target.id.value) success image :: d.driver.log := by
        rw [← hstatus]
        rfl
      obtain ⟨events, hevents, hwrites⟩ :=
        leaves_writeImage image source { d with driver := asked }
      have hlater : (run (.destroyImage image.id) written.2).driver.log =
          .called (.destroyImage image.id)
            (Library.call (.destroyImage image.id) written.2.driver).1 () ::
              written.2.driver.log := rfl
      rw [hevents, hlog] at hlater
      have hreverse : ∀ first last : Event, (first :: events ++ [last]).reverse ++ d.driver.log =
          last :: (events.reverse ++ first :: d.driver.log) := fun first last => by simp
      rw [ask_of_success hstatus]
      exact ⟨_, hlater.trans (hreverse _ _).symm, .wasDerived _ source events
        (Library.call (.destroyImage image.id) written.2.driver).1 hsource hstatus hwrites⟩
    · rw [ask_of_failure hstatus]
      exact ⟨[_, _], rfl, .notDerived _ _ _ (by simp [hsource]) hstatus⟩

/-! ## What every way out has in common -/

namespace Leaves

variable {target : Surface} {frame : Frame} {driver : δ} {result : Except DeviceError Unit}
  {events : List Event} (h : Leaves target frame driver result events)
include h

theorem events_of_none (hnone : frame.image? = none) : events = [] := by
  cases h with
  | noImage => rfl
  | notDerived e asked text hmemory => exact absurd hnone hmemory
  | wasDerived result source events destroying hsource => cases hnone.symm.trans hsource

/-- What was derived is destroyed, once and last. -/
theorem destroys (hmemory : frame.image? ≠ none) (hstatus : (derived target driver).1 = success) :
    (callsOf events).filter (·.entry = .destroyImage) =
        [.destroyImage (derived target driver).2.1.id] ∧
      (callsOf events).getLast? = some (.destroyImage (derived target driver).2.1.id) := by
  cases h with
  | noImage e hnone => exact absurd hnone hmemory
  | notDerived e asked text hmemory hfailed => exact absurd hstatus hfailed
  | wasDerived result source events destroying hsource hstatus hwrites =>
    have hcalls : callsOf
        (.called (.deriveImage target.id.value) success (derived target driver).2.1 :: events ++
          [.called (.destroyImage (derived target driver).2.1.id) destroying ()]) =
      .deriveImage target.id.value :: callsOf events ++
        [.destroyImage (derived target driver).2.1.id] := by
      simp [callsOf, Event.call?]
    rw [hcalls]
    refine ⟨?_, List.getLast?_concat⟩
    rw [List.filter_append, List.filter_cons_of_neg (by simp [Call.entry]),
      hwrites.destroys_nothing]
    rfl

theorem destroys_nothing (hnot : ¬(frame.image? ≠ none ∧ (derived target driver).1 = success)) :
    (callsOf events).filter (·.entry = .destroyImage) = [] := by
  cases h with
  | noImage => rfl
  | notDerived => rfl
  | wasDerived result source events destroying hsource hstatus =>
    exact absurd ⟨by simp [hsource], hstatus⟩ hnot

theorem maps_nothing (hnv12 : ¬(derived target driver).2.1.IsNv12) :
    (callsOf events).filter (·.entry = .mapBuffer) = [] := by
  cases h with
  | noImage => rfl
  | notDerived => rfl
  | wasDerived result source events destroying hsource hstatus hwrites =>
    simpa [callsOf, Event.call?, Call.entry] using hwrites.maps_nothing hnv12

/-- Without a mapping nothing is unmapped and nothing is written. -/
theorem of_not_maps (hmaps : ∀ address, ¬(frame.image? ≠ none ∧
      (derived target driver).1 = success ∧
      (derived target driver).2.1.MapsTo (derived target driver).2.2 address)) :
    (callsOf events).filter (·.entry = .unmapBuffer) = [] ∧
      (∀ address patch, .wrote address patch ∉ events) ∧ result ≠ .ok () := by
  cases h with
  | noImage => exact ⟨rfl, by simp, nofun⟩
  | notDerived => exact ⟨rfl, by simp, nofun⟩
  | wasDerived result source events destroying hsource hstatus hwrites =>
    obtain ⟨hunmaps, hwrote, hresult⟩ := hwrites.of_not_mapsTo fun address hmapsTo =>
      hmaps address ⟨by simp [hsource], hstatus, hmapsTo⟩
    refine ⟨?_, fun address patch => ?_, hresult⟩
    · simpa [callsOf, Event.call?, Call.entry] using hunmaps
    · simpa using hwrote address patch

theorem of_maps {source : SoftwareImage} {address : Address} (hsource : frame.image? = some source)
    (hmaps : (derived target driver).2.1.MapsTo (derived target driver).2.2 address)
    (hstatus : (derived target driver).1 = success) :
    let image := (derived target driver).2.1
    let written := image.written (derived target driver).2.2 source address
    (∃ unmapping destroying, events = [.called (.deriveImage target.id.value) success image,
        .called (.mapBuffer image.buffer) success (some address), .wrote address (.bytes written.2),
        .called (.unmapBuffer image.buffer) unmapping (),
        .called (.destroyImage image.id) destroying ()]) ∧
      (result = .ok () ↔ written.1 = none) := by
  cases h with
  | noImage e hnone => cases hnone.symm.trans hsource
  | notDerived e asked text hmemory hfailed => exact absurd hstatus hfailed
  | wasDerived result source' events destroying hsource' _ hwrites =>
    cases hsource'.symm.trans hsource
    obtain ⟨⟨unmapping, rfl⟩, hresult⟩ := hwrites.of_mapsTo hmaps
    exact ⟨⟨unmapping, destroying, rfl⟩, hresult⟩

end Leaves

/-- **An upload is balanced**, with any driver, image and contents of the surface. The image is
destroyed once, as the last call, if it was derived, and unmapped once, before that, if it was
mapped. Without a frame in memory no call is made, without an NV12 image nothing is mapped, and
without a mapping nothing is written. The upload is successful if the image was mapped and all of
the frame could be written; what is unmapped is what was written, in any case. -/
theorem upload_balanced (target : Surface) (frame : Frame) (d : Display (Logged δ)) :
    let derived : Reply δ Image := Library.call (.deriveImage target.id.value) d.driver.driver
    let image := derived.2.1
    let mapped : Reply δ (Option Address) := Library.call (.mapBuffer image.buffer) derived.2.2
    let derives := frame.image? ≠ none ∧ derived.1 = success
    let maps (address : Address) :=
      derives ∧ image.IsNv12 ∧ mapped.1 = success ∧ mapped.2.1 = some address
    let written (source : SoftwareImage) (address : Address) : Nv12.Written :=
      Nv12.write ⟨image.width, image.height, image.lumaPitch, image.chromaPitch, image.lumaOffset,
        image.chromaOffset⟩ source (Library.read address image.dataSize mapped.2.2).toArray
    ∃ events, (d.upload target frame).2.driver.log = events.reverse ++ d.driver.log ∧
      (frame.image? = none → events = []) ∧
      (derives → (callsOf events).filter (·.entry = .destroyImage) = [.destroyImage image.id] ∧
        (callsOf events).getLast? = some (.destroyImage image.id)) ∧
      (¬derives → (callsOf events).filter (·.entry = .destroyImage) = []) ∧
      (∀ source address, frame.image? = some source → maps address →
        ∃ unmapping destroying, events = [.called (.deriveImage target.id.value) success image,
          .called (.mapBuffer image.buffer) success (some address),
          .wrote address (.bytes (written source address).2),
          .called (.unmapBuffer image.buffer) unmapping (),
          .called (.destroyImage image.id) destroying ()]) ∧
      ((∀ address, ¬maps address) → (callsOf events).filter (·.entry = .unmapBuffer) = [] ∧
        ∀ address patch, .wrote address patch ∉ events) ∧
      (¬image.IsNv12 → (callsOf events).filter (·.entry = .mapBuffer) = []) ∧
      ((d.upload target frame).1 = .ok () ↔ ∃ source address, frame.image? = some source ∧
        maps address ∧ (written source address).1 = none) := by
  intro derived image mapped derives maps written
  obtain ⟨events, hlog, h⟩ := leaves_upload target frame d
  have hmapsTo : ∀ address, maps address ↔ frame.image? ≠ none ∧ derived.1 = success ∧
      image.MapsTo derived.2.2 address := fun address =>
    ⟨fun ⟨⟨hmemory, hstatus⟩, hnv12, hmap, haddress⟩ => ⟨hmemory, hstatus, hnv12, hmap, haddress⟩,
      fun ⟨hmemory, hstatus, hnv12, hmap, haddress⟩ => ⟨⟨hmemory, hstatus⟩, hnv12, hmap, haddress⟩⟩
  have hnothing : (∀ address, ¬maps address) → _ := fun hmaps =>
    h.of_not_maps fun address => mt (hmapsTo address).2 (hmaps address)
  refine ⟨events, hlog, h.events_of_none, fun hderives => h.destroys hderives.1 hderives.2,
    h.destroys_nothing, fun source address hsource hmaps => ?_,
    fun hmaps => ⟨(hnothing hmaps).1, (hnothing hmaps).2.1⟩, h.maps_nothing, fun hok => ?_, ?_⟩
  · obtain ⟨-, hstatus, himage⟩ := (hmapsTo address).1 hmaps
    exact (h.of_maps hsource himage hstatus).1
  · by_contra hnot
    by_cases hmaps : ∃ address, maps address
    · obtain ⟨address, hmaps⟩ := hmaps
      obtain ⟨hmemory, hstatus, himage⟩ := (hmapsTo address).1 hmaps
      obtain ⟨source, hsource⟩ := Option.ne_none_iff_exists'.1 hmemory
      exact hnot ⟨source, address, hsource, hmaps, (h.of_maps hsource himage hstatus).2.1 hok⟩
    · exact (hnothing (not_exists.1 hmaps)).2.2 hok
  · rintro ⟨source, address, hsource, hmaps, hwritten⟩
    obtain ⟨-, hstatus, himage⟩ := (hmapsTo address).1 hmaps
    exact (h.of_maps hsource himage hstatus).2.2 hwritten

/-! ## A picture that is there already -/

/-- A driver with one surface, with a description of its image and a picture on it. -/
structure Painted where
  image : Image
  bytes : Bytes

instance : Library Painted where
  hasNode _ _ := true
  call
    | .deriveImage _, p => (success, p.image, p)
    | .mapBuffer _, p => (success, some 0, p)
    | c, p => (success, Driver.untouched c, p)
  read _ _ p := Vector.ofFn fun i => p.bytes.getD i 0
  write
    | _, .bytes bytes, p => { p with bytes }
    | _, .flags _, p => p

/-- The image of a surface of two by two pixels, one byte short, with a gap behind each row. -/
def shortImage : Image :=
  { id := 8, buffer := 9, format := nv12Code, planes := 2, width := 2, height := 2, lumaPitch := 3,
    chromaPitch := 2, lumaOffset := 0, chromaOffset := 6, dataSize := 7 }

def paintedDisplay : Display (Logged Painted) where
  driver := { driver := ⟨shortImage, #[1, 2, 3, 4, 5, 6, 7]⟩ }
  version := (1, 0)

/-- The row of chroma does not fit: the rows of luma have been written, the gaps show what was there
before, and all is given back. -/
theorem upload_balanced_of_shortImage :
    let frame := Frame.ofImage (.filled .nv12 2 2 0x55)
    let target : Surface := ⟨⟨3⟩, 2, 2, none⟩
    (paintedDisplay.upload target frame).1 ≠ .ok () ∧ ∃ unmapping destroying,
      (paintedDisplay.upload target frame).2.driver.log =
        [.called (.destroyImage 8) destroying (), .called (.unmapBuffer 9) unmapping (),
          .wrote 0 (.bytes #[0x55, 0x55, 3, 0x55, 0x55, 6, 7]),
          .called (.mapBuffer 9) success (some 0),
          .called (.deriveImage 3) success shortImage] := by
  intro frame target
  have hwritten : Nv12.write ⟨2, 2, 3, 2, 0, 6⟩ (.filled .nv12 2 2 0x55)
      (Library.read 0 7 paintedDisplay.driver.driver).toArray =
        (some .bufferTooSmall, #[0x55, 0x55, 3, 0x55, 0x55, 6, 7]) := by decide +kernel
  obtain ⟨events, hlog, -, -, -, hevents, -, -, hok⟩ := upload_balanced target frame paintedDisplay
  obtain ⟨unmapping, destroying, rfl⟩ :=
    hevents (.filled .nv12 2 2 0x55) 0 rfl ⟨⟨nofun, rfl⟩, ⟨rfl, Nat.le_refl 2⟩, rfl, rfl⟩
  refine ⟨fun hresult => ?_, unmapping, destroying, hlog.trans ?_⟩
  · obtain ⟨source, address, hsource, ⟨-, -, -, haddress⟩, hnone⟩ := hok.1 hresult
    cases hsource
    cases haddress
    exact nomatch (congrArg Prod.fst hwritten).symm.trans hnone
  · let log (written : Nv12.Written) : List Event := [.called (.destroyImage 8) destroying (),
      .called (.unmapBuffer 9) unmapping (), .wrote 0 (.bytes written.2),
      .called (.mapBuffer 9) success (some 0), .called (.deriveImage 3) success shortImage]
    exact congrArg log hwritten

end Display

end Deinterlace.Va
