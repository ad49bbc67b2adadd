import Deinterlace.Device.Simulator
import Deinterlace.Proofs.Va.Log

/-!
# What a driver is told

A driver learns piece by piece what is to be rendered: the target when a picture begins, the flags
of a filter when its buffer has been mapped and written to and is unmapped again, and everything
else from the parameters of the picture. `Reading` puts the pieces together, event by event, by the
meaning that the interface gives to its codes; `picturesIn` are the pictures that a log asks for.
What the device writes for a request reads as that request again (`decode?_pictureParams`).
-/
namespace Deinterlace.Va

/-! ## Codes back into words -/

/-- The part of a picture that is processed, from the lowest bits of the flags. -/
def fieldOfFlags? (flags : Nat) : Option PictureField :=
  match flags % 0x10 with
  | 0 => some .frame
  | 1 => some .top
  | 2 => some .bottom
  | _ => none

/-- A colour space, stated by the code of a standard and once more by the higher bits of the flags.
There is no flag for the newest standard. -/
def colorSpaceOf? (code : Int) (flags : Nat) : Option ColorSpace :=
  match standardOfCode code, flags / 0x10 with
  | .none, 0 => some .auto
  | .bt601, 1 => some .bt601
  | .bt709, 2 => some .bt709
  | .smpte240m, 4 => some .smpte240m
  | .bt2020, 0 => some .bt2020
  | _, _ => none

/-- The request that the parameters of a picture stand for, if they make sense. -/
def PictureParams.decode? (target : SurfaceId) (params : PictureParams) : Option RenderRequest :=
  if params.outputStandard = params.surfaceStandard then
    (fieldOfFlags? params.filterFlags).bind fun field =>
      (colorSpaceOf? params.surfaceStandard params.filterFlags).map fun colorspace =>
        { source := ⟨params.surface⟩
          destination := target
          sourceRegion := params.surfaceRegion
          outputRegion := params.outputRegion
          field := field
          colorspace := colorspace
          filters := params.filters.map (⟨·⟩)
          forwardReferences := params.forward.map (⟨·⟩)
          backwardReferences := params.backward.map (⟨·⟩) }
  else none

/-- **The parameters of a picture say all of the request.** -/
theorem decode?_pictureParams (request : RenderRequest) :
    (Display.pictureParams request).decode? request.destination = some request := by
  have hhandles : ∀ {k : Handle.Kind} (ids : List (Handle k)),
      (ids.map (·.value)).map (⟨·⟩) = ids := by
    intro k ids
    rw [List.map_map]
    exact List.map_id ids
  obtain ⟨source, destination, sourceRegion, outputRegion, field, colorspace, filters, forward,
    backward⟩ := request
  unfold PictureParams.decode? Display.pictureParams
  cases colorspace <;> cases field <;> simp only [hhandles] <;> rfl

/-! ## Reading a log -/

/-- A buffer that is mapped, and the flags that were written to it last. -/
structure Mapping where
  buffer : BufferId
  address : Address
  flags : Option DeintFlags := none

/-- What can be gathered from a log. -/
structure Reading where
  /-- The target of the picture that was begun last. -/
  target : SurfaceId := .invalid
  /-- The buffer that was mapped last, until it is unmapped. -/
  mapping : Option Mapping := none
  /-- The flags that were written to filters through mappings, latest first. -/
  written : List (BufferId × DeintFlags) := []
  /-- The pictures that were asked for, latest first. Nothing stands for one that makes no sense. -/
  pictures : List (Option Simulator.Submission) := []

namespace Reading

/-- What the parameters of a picture ask for, with the flags written last to the first filter. -/
def picture? (r : Reading) : Params → Option Simulator.Submission
  | .picture params =>
    (params.decode? r.target).map fun request =>
      ⟨request, request.filters.head?.bind fun filter => r.written.lookup filter⟩
  | .filter _ => none

/-- Flags count for the buffer that is mapped where they are written. -/
def write (r : Reading) (address : Address) (flags : DeintFlags) : Reading :=
  { r with mapping := r.mapping.map fun m =>
      if m.address = address then { m with flags := some flags } else m }

/-- The flags of a buffer are in force when it is unmapped. -/
def unmap (r : Reading) (id : BufferId) : Reading :=
  match r.mapping with
  | some ⟨buffer, _, flags⟩ =>
    if buffer = id then
      { r with mapping := none, written := (flags.toList.map fun f => (id, f)) ++ r.written }
    else r
  | none => r

def next (r : Reading) : Event → Reading
  | .called (.beginPicture _ surface) _ _ => { r with target := ⟨surface⟩ }
  | .called (.mapBuffer id) status address =>
    if status = success then { r with mapping := address.map (⟨⟨id⟩, ·, none⟩) } else r
  | .wrote address (.flags bits) => r.write address ⟨bits⟩
  | .called (.unmapBuffer id) _ _ => r.unmap ⟨id⟩
  | .called (.createBuffer _ _ contents) _ _ =>
    if contents.typeCode = requestBufferType then
      { r with pictures := r.picture? contents :: r.pictures }
    else r
  | _ => r

end Reading

def reading (log : List Event) : Reading := log.foldr (fun e r => r.next e) {}

/-- The pictures that are asked for, one for each parameter buffer of a picture, in order. -/
def picturesIn (log : List Event) : List (Option Simulator.Submission) :=
  (reading log).pictures.reverse

/-- Calls that are about no picture ask for none, and neither does what is written. -/
theorem Leads.pictures_eq {δ : Type} [Library δ] {l later : Logged δ}
    (h : Leads Call.Mute l later) :
    (reading later.log).pictures = (reading l.log).pictures := by
  obtain ⟨added, heq, hadded⟩ := h.exists_added
  rw [heq]
  clear heq
  induction added with
  | nil => rfl
  | cons e rest ih =>
    obtain ⟨he, hrest⟩ := List.forall_mem_cons.1 hadded
    refine Eq.trans ?_ (ih hrest)
    show ((reading (rest ++ l.log)).next e).pictures = _
    unfold Reading.next
    split
    case h_3 => rfl
    case h_6 => rfl
    all_goals exact absurd he id

namespace Reading

variable (r : Reading)

/-- The picture that a request is written for. -/
theorem next_picture (context count : Nat) (status : Int) (id : Nat) {request : RenderRequest}
    {flags : DeintFlags} {filter : BufferId} (htarget : r.target = request.destination)
    (hfilter : request.filters.head? = some filter)
    (hflags : r.written.lookup filter = some flags) :
    (r.next (.called (.createBuffer context count (.picture (Display.pictureParams request))) status
      id)).pictures = some ⟨request, some flags⟩ :: r.pictures := by
  have hread : r.picture? (.picture (Display.pictureParams request)) =
      some ⟨request, some flags⟩ := by
    rw [picture?, htarget, decode?_pictureParams, Option.map_some, hfilter, Option.bind_some,
      hflags]
  show r.picture? (.picture (Display.pictureParams request)) :: r.pictures = _
  rw [hread]

/-- Flags that are written to a filter through a mapping are in force. -/
theorem next_flags (filter : BufferId) (address : Address) (flags : DeintFlags) :
    ((((r.next (.called (.mapBuffer filter.value) success (some address))).next
      (.wrote address (.flags flags.bits))).next
        (.called (.unmapBuffer filter.value) success ()))) =
      { r with mapping := none, written := (filter, flags) :: r.written } := by
  simp [next, write, unmap]

end Reading

end Deinterlace.Va
