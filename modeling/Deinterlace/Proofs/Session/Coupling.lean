import Deinterlace.Proofs.Window.Blank
import Mathlib.Data.List.Forall2

/-!
# Devices side by side

Two devices give different handles to what they make, and so the same calls lead to frames and
requests that are equal up to `Names`, which pairs the handles that stand for each other
(`Frame.Alike`, `RenderRequest.Alike`). A `Coupling` is a relation between the states of two devices
that survives every operation that two sessions carry out on both sides, with answers that are
alike; here it is drawn out to the steps that a session is made of, giving frames back, rendering
and uploading (`Coupling.releaseFrames`, `Coupling.render`, `Coupling.uploadFrame`).
-/
namespace Deinterlace

/-! ## Names -/

/-- Pairs of handles that stand for each other on two devices. -/
structure Names where
  /-- The surfaces of pools. -/
  surfaces : List (SurfaceId × SurfaceId) := []
  /-- The filter buffers. -/
  buffers : List (BufferId × BufferId) := []

namespace Names

/-- No handle stands for two. -/
structure OneToOne (n : Names) : Prop where
  surfaces_left : (n.surfaces.map (·.1)).Nodup
  surfaces_right : (n.surfaces.map (·.2)).Nodup
  buffers_left : (n.buffers.map (·.1)).Nodup
  buffers_right : (n.buffers.map (·.2)).Nodup

/-- Filters that are paired in their order have one name each. -/
theorem OneToOne.of_zip {n : Names} {left right : List BufferId}
    (hlength : right.length = left.length) (hnamed : n.buffers = left.zip right)
    (hleft : left.Nodup) (hright : right.Nodup) (hsurfaces : (n.surfaces.map (·.1)).Nodup)
    (hsurfaces' : (n.surfaces.map (·.2)).Nodup) : n.OneToOne := by
  have hfst : (left.zip right).map (·.1) = left := List.map_fst_zip (Nat.le_of_eq hlength.symm)
  have hsnd : (left.zip right).map (·.2) = right := List.map_snd_zip (Nat.le_of_eq hlength)
  refine ⟨hsurfaces, hsurfaces', ?_, ?_⟩
  · rw [hnamed, hfst]
    exact hleft
  · rw [hnamed, hsnd]
    exact hright

/-- Surfaces may be named later, buffers may not. -/
structure Grows (n m : Names) : Prop where
  surfaces : n.surfaces ⊆ m.surfaces
  buffers : m.buffers = n.buffers

theorem Grows.refl (n : Names) : n.Grows n := ⟨List.Subset.refl _, rfl⟩

theorem Grows.trans {n m l : Names} (h : n.Grows m) (h' : m.Grows l) : n.Grows l :=
  ⟨fun _ hx => h'.surfaces (h.surfaces hx), h'.buffers.trans h.buffers⟩

end Names

/-! ## Frames that are alike -/

/-- Surfaces of pools that stand for each other. -/
structure Surface.Alike (n : Names) (s t : Surface) : Prop where
  named : (s.id, t.id) ∈ n.surfaces
  width_eq : t.width = s.width
  height_eq : t.height = s.height
  valid : s.id.isValid = true
  valid' : t.id.isValid = true
  lent : ∃ a b, s.holding? = some a ∧ t.holding? = some b

/-- Contents that are the same and from no pool, or surfaces of pools that stand for each other. -/
inductive FrameContent.Alike (n : Names) : FrameContent → FrameContent → Prop
  | same {content : FrameContent} (h : ∀ s, content = .surface s → s.lease = none) :
      Alike n content content
  | lent {s t : Surface} (h : s.Alike n t) : Alike n (.surface s) (.surface t)

/-- Frames that differ at most in the surfaces of pools that they show. -/
structure Frame.Alike (n : Names) (f g : Frame) : Prop where
  blank_eq : g.blank = f.blank
  content : f.content.Alike n g.content

/-- Requests that are equal up to names, where the surfaces that are read are linked by `links`. -/
structure RenderRequest.Alike (links : SurfaceId → SurfaceId → Prop) (n : Names)
    (r r' : RenderRequest) : Prop where
  source : links r.source r'.source
  destination : (r.destination, r'.destination) ∈ n.surfaces
  sourceRegion_eq : r'.sourceRegion = r.sourceRegion
  outputRegion_eq : r'.outputRegion = r.outputRegion
  field_eq : r'.field = r.field
  colorspace_eq : r'.colorspace = r.colorspace
  filters : List.Forall₂ (fun a b => (a, b) ∈ n.buffers) r.filters r'.filters
  forward : List.Forall₂ links r.forwardReferences r'.forwardReferences
  backward : List.Forall₂ links r.backwardReferences r'.backwardReferences

variable {n m : Names} {f g : Frame}

theorem Surface.Alike.mono (h : n.Grows m) {s t : Surface} (hst : s.Alike n t) : s.Alike m t :=
  { hst with named := h.surfaces hst.named }

theorem FrameContent.Alike.mono (h : n.Grows m) {content content' : FrameContent}
    (hcontent : content.Alike n content') : content.Alike m content' := by
  cases hcontent with
  | same hfree => exact .same hfree
  | lent hst => exact .lent (hst.mono h)

namespace Frame.Alike

theorem mono (h : n.Grows m) (hfg : f.Alike n g) : f.Alike m g :=
  ⟨hfg.blank_eq, hfg.content.mono h⟩

/-- A frame from outside is like itself. -/
theorem refl (n : Names) (h : f.holding? = none) : f.Alike n f := by
  refine ⟨rfl, .same fun s hs => ?_⟩
  unfold Frame.holding? Frame.surface? at h
  rw [hs] at h
  exact Option.map_eq_none_iff.1 h

theorem format_eq (h : f.Alike n g) : g.format = f.format := congrArg (·.format) h.blank_eq

theorem width_eq (h : f.Alike n g) : g.width = f.width := congrArg (·.width) h.blank_eq

theorem height_eq (h : f.Alike n g) : g.height = f.height := congrArg (·.height) h.blank_eq

theorem colorspace_eq (h : f.Alike n g) : g.colorspace = f.colorspace :=
  congrArg (·.colorspace) h.blank_eq

theorem pts_eq (h : f.Alike n g) : g.pts = f.pts := congrArg (·.pts) h.blank_eq

theorem fields_eq (h : f.Alike n g) : g.fields = f.fields := congrArg (·.fields) h.blank_eq

theorem isValid_eq (h : f.Alike n g) : g.surfaceId.isValid = f.surfaceId.isValid := by
  unfold surfaceId
  have hcontent := h.content
  generalize f.content = content at hcontent ⊢
  generalize g.content = content' at hcontent ⊢
  cases hcontent with
  | same => rfl
  | lent hst => exact hst.valid'.trans hst.valid.symm

/-- Either both frames have a share in a lease or neither has. -/
theorem holdings (h : f.Alike n g) : f.holding? = none ∧ g.holding? = none ∨
    ∃ a b, f.holding? = some a ∧ g.holding? = some b := by
  unfold holding? surface?
  have hcontent := h.content
  generalize f.content = content at hcontent ⊢
  generalize g.content = content' at hcontent ⊢
  cases hcontent with
  | same hfree =>
    left
    cases content with
    | image => exact ⟨rfl, rfl⟩
    | surface s => simp [Surface.holding?, hfree s rfl]
  | lent hst => exact .inr hst.lent

/-- A picture on a surface of a pool, with the attributes of the frame that it is made from. -/
theorem onSurface (h : f.Alike n g) {s t : Surface} (hst : s.Alike n t) :
    ((Frame.ofSurface s f.width f.height).withAttributesOf f).Alike n
      ((Frame.ofSurface t g.width g.height).withAttributesOf g) := by
  refine ⟨?_, .lent hst⟩
  simp only [Frame.ofSurface, Frame.withAttributesOf, Frame.blank, h.width_eq, h.height_eq,
    h.colorspace_eq, h.pts_eq, h.fields_eq]

end Frame.Alike

/-! ## Shares on both sides -/

/-- The shares that go with two frames on surfaces of pools. -/
def share? (p : Frame × Frame) : Option (Holding × Holding) :=
  match p.1.holding?, p.2.holding? with
  | some a, some b => some (a, b)
  | _, _ => none

def sharesOf (pairs : List (Frame × Frame)) : List (Holding × Holding) := pairs.filterMap share?

@[simp] theorem sharesOf_append (pairs more : List (Frame × Frame)) :
    sharesOf (pairs ++ more) = sharesOf pairs ++ sharesOf more :=
  List.filterMap_append

theorem sharesOf_cons (p : Frame × Frame) (pairs : List (Frame × Frame)) :
    sharesOf (p :: pairs) = (share? p).toList ++ sharesOf pairs := by
  rw [sharesOf, List.filterMap_cons]
  cases share? p <;> rfl

theorem share?_of_none (h : f.holding? = none) : share? (f, g) = none := by
  simp only [share?, h]

/-- Frames from outside have no share in anything. -/
theorem sharesOf_eq_nil {pairs : List (Frame × Frame)}
    (h : ∀ p ∈ pairs, p.1.holding? = none) : sharesOf pairs = [] :=
  List.filterMap_eq_nil_iff.2 fun p hp => share?_of_none (h p hp)

theorem share?_of_some {a b : Holding} (hf : f.holding? = some a) (hg : g.holding? = some b) :
    share? (f, g) = some (a, b) := by
  simp only [share?, hf, hg]

/-- How many later and earlier frames a device wants to look at. -/
def PipelineCaps.references (caps : PipelineCaps) : Nat × Nat :=
  (caps.forwardReferences, caps.backwardReferences)

/-! ## Couplings -/

/-- A relation between two devices in the hands of sessions with the fixtures `left` and `right`,
which survives what the sessions do to them in step. -/
structure Coupling (σ τ : Type) [Device σ] [Device τ] where
  left : Fixtures
  right : Fixtures
  /-- Frames that may stand at the same place of the two windows. -/
  seen : Names → Frame → Frame → Prop
  /-- Whether the callers keep pictures, and hand in frames in memory. -/
  keeps : Prop
  /-- Either both pools have a surface left or neither has. -/
  room : Option (PoolId × PoolId) → σ → τ → Prop
  /-- The relation itself, for two pools and the shares that are out on both sides. -/
  bond : Names → Option (PoolId × PoolId) → List (Holding × Holding) → σ → τ → Prop
  length_eq : right.filters.length = left.filters.length
  alike {n : Names} {f g : Frame} : seen n f g → f.Alike n g
  seen_mono {n m : Names} {f g : Frame} : n.Grows m → seen n f g → seen m f g
  seen_lent {n : Names} {f g : Frame} : keeps → f.Alike n g → f.holding? ≠ none → seen n f g
  seen_revise {n : Names} {f g : Frame} (like : Frame) : seen n f g →
    seen n { like with content := f.content } { like with content := g.content }
  perm {n : Names} {pools : Option (PoolId × PoolId)} {shares later : List (Holding × Holding)}
    {d : σ} {e : τ} : shares.Perm later → bond n pools shares d e → bond n pools later d e
  retain {n : Names} {pools : Option (PoolId × PoolId)} {shares : List (Holding × Holding)}
    {share : Holding × Holding} {d : σ} {e : τ} : share ∈ shares → bond n pools shares d e →
      bond n pools (share :: shares) (Device.retain share.1.lease d)
        (Device.retain share.2.lease e)
  release {n : Names} {pools : Option (PoolId × PoolId)} {shares : List (Holding × Holding)}
    {share : Holding × Holding} {d : σ} {e : τ} : bond n pools (share :: shares) d e →
      bond n pools shares (Device.release share.1.lease d) (Device.release share.2.lease e) ∧
        (room pools d e →
          room pools (Device.release share.1.lease d) (Device.release share.2.lease e))
  queryCaps {n : Names} {pools : Option (PoolId × PoolId)} {shares : List (Holding × Holding)}
    {d : σ} {e : τ} : bond n pools shares d e →
      (Device.queryCaps right.context right.filters e).1.toOption.map (·.references) =
          (Device.queryCaps left.context left.filters d).1.toOption.map (·.references) ∧
        bond n pools shares (Device.queryCaps left.context left.filters d).2
          (Device.queryCaps right.context right.filters e).2 ∧
        (room pools d e → room pools (Device.queryCaps left.context left.filters d).2
          (Device.queryCaps right.context right.filters e).2)
  allocate {n : Names} {p q : PoolId} {shares : List (Holding × Holding)} {d : σ} {e : τ} :
    bond n (some (p, q)) shares d e → room (some (p, q)) d e →
      (∃ error d' e', Device.allocate p d = (.error error, d') ∧
        Device.allocate q e = (.error error, e') ∧ bond n (some (p, q)) shares d' e') ∨
      ∃ m s t a b d' e', n.Grows m ∧ Device.allocate p d = (.ok s, d') ∧
        Device.allocate q e = (.ok t, e') ∧ s.Alike m t ∧ s.holding? = some a ∧
          t.holding? = some b ∧ bond m (some (p, q)) ((a, b) :: shares) d' e'
  upload {n : Names} {p q : PoolId} {shares : List (Holding × Holding)} {d : σ} {e : τ}
    {s t : Surface} {f g : Frame} : keeps → f.Alike n g → bond n (some (p, q)) shares d e →
      (Device.upload q t g e).1 = (Device.upload p s f d).1 ∧
        bond n (some (p, q)) shares (Device.upload p s f d).2 (Device.upload q t g e).2
  submit {n : Names} {p q : PoolId} {shares : List (Holding × Holding)} {d : σ} {e : τ}
    {r r' : RenderRequest} (flags : DeintFlags) :
    left.filters ≠ [] → r.filters = left.filters → r'.filters = right.filters →
      r.destination.isValid = true → r'.destination.isValid = true →
      r.Alike (fun a b => ∃ f g, seen n f g ∧ f.surfaceId = a ∧ g.surfaceId = b) n r' →
      bond n (some (p, q)) shares d e →
        (Rendering.submit right.context right.filters.head? flags r' e).1 =
            (Rendering.submit left.context left.filters.head? flags r d).1 ∧
          bond n (some (p, q)) shares
            (Rendering.submit left.context left.filters.head? flags r d).2
            (Rendering.submit right.context right.filters.head? flags r' e).2

namespace Coupling

variable {σ τ : Type} [Device σ] [Device τ] (k : Coupling σ τ)

/-- When nothing is out, the devices can give up their pools together and set up new ones. -/
structure Renews (fits : PoolDesc → Prop) : Prop where
  closePool {n : Names} {p q : PoolId} {d : σ} {e : τ} : k.bond n (some (p, q)) [] d e →
    k.bond n none [] (Device.closePool p d) (Device.closePool q e)
  createPool {n : Names} {desc : PoolDesc} {d : σ} {e : τ} : fits desc → k.bond n none [] d e →
    (∃ error d' e', Device.createPool desc d = (.error error, d') ∧
      Device.createPool desc e = (.error error, e') ∧ k.bond n none [] d' e') ∨
    ∃ p q d' e', Device.createPool desc d = (.ok p, d') ∧ Device.createPool desc e = (.ok q, e') ∧
      k.bond n (some (p, q)) [] d' e'

/-- They can do so while the shares `shares` are out. -/
structure RenewsBeside (shares : List (Holding × Holding)) (fits : PoolDesc → Prop) : Prop where
  closePool {n : Names} {p q : PoolId} {d : σ} {e : τ} : k.bond n (some (p, q)) shares d e →
    k.bond n none shares (Device.closePool p d) (Device.closePool q e)
  createPool {n : Names} {desc : PoolDesc} {d : σ} {e : τ} : fits desc →
    k.bond n none shares d e →
    (∃ error d' e', Device.createPool desc d = (.error error, d') ∧
      Device.createPool desc e = (.error error, e') ∧ k.bond n none shares d' e') ∨
    ∃ p q d' e', Device.createPool desc d = (.ok p, d') ∧ Device.createPool desc e = (.ok q, e') ∧
      k.bond n (some (p, q)) shares d' e'

theorem Renews.beside {fits : PoolDesc → Prop} (h : k.Renews fits) : k.RenewsBeside [] fits :=
  ⟨h.closePool, h.createPool⟩

variable {pools : Option (PoolId × PoolId)} {pairs gone rest : List (Frame × Frame)} {d : σ} {e : τ}

/-- Frames that the callers may have in their hands. What they keep they may hand in. -/
def Shown (n : Names) (f g : Frame) : Prop := f.Alike n g ∧ (k.keeps → k.seen n f g)

/-- The surfaces of frames that may stand at the same place of the two windows. -/
def links (n : Names) (a b : SurfaceId) : Prop :=
  ∃ f g, k.seen n f g ∧ f.surfaceId = a ∧ g.surfaceId = b

variable {k}

theorem Shown.mono {m : Names} (hgrows : n.Grows m) (h : k.Shown n f g) : k.Shown m f g :=
  ⟨h.1.mono hgrows, fun hkeeps => k.seen_mono hgrows (h.2 hkeeps)⟩

theorem Shown.of_seen (h : k.seen n f g) : k.Shown n f g := ⟨k.alike h, fun _ => h⟩

theorem Shown.of_lent (h : f.Alike n g) (hlent : f.holding? ≠ none) : k.Shown n f g :=
  ⟨h, fun hkeeps => k.seen_lent hkeeps h hlent⟩

theorem permFrames (hperm : pairs.Perm rest) (h : k.bond n pools (sharesOf pairs) d e) :
    k.bond n pools (sharesOf rest) d e :=
  k.perm (hperm.filterMap _) h

theorem retainFrame (hfg : f.Alike n g) (hmem : (f, g) ∈ pairs)
    (h : k.bond n pools (sharesOf pairs) d e) :
    k.bond n pools (sharesOf ((f, g) :: pairs)) (Device.retainFrame f d)
      (Device.retainFrame g e) := by
  unfold Device.retainFrame
  rw [f.lease?_eq, g.lease?_eq, sharesOf_cons]
  rcases hfg.holdings with ⟨hf, hg⟩ | ⟨a, b, hf, hg⟩
  · rw [hf, hg, share?_of_none hf]
    exact h
  · have hshare := share?_of_some hf hg
    rw [hf, hg, hshare]
    exact k.retain (List.mem_filterMap.2 ⟨(f, g), hmem, hshare⟩) h

theorem releaseFrame (hfg : f.Alike n g) (h : k.bond n pools (sharesOf ((f, g) :: rest)) d e) :
    k.bond n pools (sharesOf rest) (Device.releaseFrame f d) (Device.releaseFrame g e) ∧
      (k.room pools d e → k.room pools (Device.releaseFrame f d) (Device.releaseFrame g e)) := by
  unfold Device.releaseFrame
  rw [f.lease?_eq, g.lease?_eq]
  rw [sharesOf_cons] at h
  rcases hfg.holdings with ⟨hf, hg⟩ | ⟨a, b, hf, hg⟩
  · rw [share?_of_none hf] at h
    rw [hf, hg]
    exact ⟨h, id⟩
  · rw [share?_of_some hf hg] at h
    rw [hf, hg]
    exact k.release h

theorem releaseFrames (hgone : ∀ p ∈ gone, p.1.Alike n p.2)
    (h : k.bond n pools (sharesOf (gone ++ rest)) d e) :
    k.bond n pools (sharesOf rest) (Device.releaseFrames (gone.map (·.1)) d)
        (Device.releaseFrames (gone.map (·.2)) e) ∧
      (k.room pools d e → k.room pools (Device.releaseFrames (gone.map (·.1)) d)
        (Device.releaseFrames (gone.map (·.2)) e)) := by
  unfold Device.releaseFrames
  induction gone generalizing d e with
  | nil => exact ⟨h, id⟩
  | cons p gone ih =>
    obtain ⟨hbond, hroom⟩ := releaseFrame (hgone p List.mem_cons_self) h
    obtain ⟨hbond', hroom'⟩ := ih (fun q hq => hgone q (List.mem_cons_of_mem _ hq)) hbond
    exact ⟨hbond', fun hbefore => hroom' (hroom hbefore)⟩

theorem releaseSurface {s t : Surface} {a b : Holding} (hs : s.holding? = some a)
    (ht : t.holding? = some b) {shares : List (Holding × Holding)}
    (h : k.bond n pools ((a, b) :: shares) d e) :
    k.bond n pools shares (Device.releaseSurface s d) (Device.releaseSurface t e) := by
  obtain ⟨lease, hlease, rfl⟩ := Option.map_eq_some_iff.1 hs
  obtain ⟨lease', hlease', rfl⟩ := Option.map_eq_some_iff.1 ht
  simp only [Device.releaseSurface, hlease, hlease']
  exact (k.release h).1

end Coupling

/-! ## Pictures on both sides -/

/-- The chains have been negotiated to the same effect. -/
structure Chain.Alike (c e : Chain) : Prop where
  options_eq : e.options = c.options
  on_eq : e.last.map (·.deinterlace) = c.last.map (·.deinterlace)
  active_iff : e.active = [] ↔ c.active = []
  reported_eq : e.reportedReferences = c.reportedReferences

variable {σ τ : Type} [Device σ] [Device τ] {k : Coupling σ τ} {n : Names}
variable {pools : Option (PoolId × PoolId)} {inside out pairs : List (Frame × Frame)}

namespace Rendering

variable {w x : Window}

theorem references_links (hwindow : Window.Twin inside w x)
    (hseen : ∀ p ∈ inside, k.seen n p.1 p.2) (count : Nat) (direction : Int) :
    List.Forall₂ (k.links n) (references w count direction) (references x count direction) := by
  unfold references
  rw [hwindow.length_eq]
  generalize min count w.frames.length = fuel
  generalize 1 = distance
  induction fuel generalizing distance with
  | zero => exact .nil
  | succ fuel ih =>
    unfold collectReferences
    rcases hwindow.frameAt?_cases (distance * direction) with ⟨hw, hx⟩ | ⟨p, hp, hw, hx⟩
    · simp only [hw, hx]
      exact .nil
    · have hvalid := (k.alike (hseen p hp)).isValid_eq
      simp only [hw, hx, hvalid]
      split
      · exact .cons ⟨p.1, p.2, hseen p hp, rfl, rfl⟩ (ih (distance + 1))
      · exact .nil

theorem buildRequest_alike {c e : Chain} (hchain : c.Alike e) (hwindow : Window.Twin inside w x)
    (hseen : ∀ p ∈ inside, k.seen n p.1 p.2) {f g : Frame} (hfg : (f, g) ∈ inside)
    {a b : SurfaceId} (hnamed : (a, b) ∈ n.surfaces)
    (hfilters : List.Forall₂ (fun a b => (a, b) ∈ n.buffers) c.active e.active) :
    (buildRequest c w f a).Alike (k.links n) n (buildRequest e x g b) := by
  have halike : f.Alike n g := k.alike (hseen _ hfg)
  have hreported := hchain.reported_eq
  have hoptions := hchain.options_eq
  refine ⟨⟨f, g, hseen _ hfg, rfl, rfl⟩, hnamed, ?_, ?_, hwindow.fieldOf_eq,
    halike.colorspace_eq, hfilters, ?_, ?_⟩
  · simp only [buildRequest, halike.width_eq, halike.height_eq]
  · simp only [buildRequest, halike.width_eq, halike.height_eq]
  · simp only [buildRequest, hreported, hoptions]
    exact references_links hwindow hseen _ _
  · simp only [buildRequest, hreported, hoptions]
    exact references_links hwindow hseen _ _

theorem pictureOf_alike (hwindow : Window.Twin inside w x) {f g : Frame} (hfg : f.Alike n g)
    {s t : Surface} (hst : s.Alike n t) : (pictureOf w f s).Alike n (pictureOf x g t) := by
  obtain ⟨hblank, hcontent⟩ := hfg.onSurface hst
  refine ⟨?_, hcontent⟩
  simp only [Frame.blank, Frame.mk.injEq] at hblank ⊢
  obtain ⟨hformat, hwidth, hheight, hcolors, -, hfields, -⟩ := hblank
  refine ⟨hformat, hwidth, hheight, hcolors, hwindow.currentPts_eq, ?_, trivial⟩
  simp only [pictureOf, hwindow.fieldOf_eq, hfields]

end Rendering

namespace Coupling

/-- What is left of a call on both sides that takes a surface: an error, or frames that are alike,
whose shares have joined the others. -/
inductive Yields (k : Coupling σ τ) (n : Names) (pools : Option (PoolId × PoolId))
    (pairs : List (Frame × Frame)) : Except Error Frame × σ → Except Error Frame × τ → Prop
  | error {m : Names} {e : Error} {d : σ} {d' : τ} (hgrows : n.Grows m)
      (h : k.bond m pools (sharesOf pairs) d d') :
      Yields k n pools pairs (.error e, d) (.error e, d')
  | frame {m : Names} {f g : Frame} {d : σ} {d' : τ} (hgrows : n.Grows m) (hfg : f.Alike m g)
      (hlent : f.holding? ≠ none) (h : k.bond m pools (sharesOf ((f, g) :: pairs)) d d') :
      Yields k n pools pairs (.ok f, d) (.ok g, d')

variable {d : σ} {e : τ} {f g : Frame}

theorem sharesOf_shown {s t : Surface} {a b : Holding} (hs : s.holding? = some a)
    (ht : t.holding? = some b) (hf : f.content = .surface s) (hg : g.content = .surface t)
    (pairs : List (Frame × Frame)) :
    f.holding? ≠ none ∧ sharesOf ((f, g) :: pairs) = (a, b) :: sharesOf pairs := by
  have hf' : f.holding? = some a := by
    simp only [Frame.holding?, Frame.surface?, hf, Option.bind_some, hs]
  have hg' : g.holding? = some b := by
    simp only [Frame.holding?, Frame.surface?, hg, Option.bind_some, ht]
  rw [sharesOf_cons, share?_of_some hf' hg', hf']
  exact ⟨Option.some_ne_none a, rfl⟩

theorem uploadFrame (hkeeps : k.keeps) (hfg : f.Alike n g)
    (h : k.bond n pools (sharesOf pairs) d e) (hroom : k.room pools d e) :
    k.Yields n pools pairs (Session.upload (pools.map (·.1)) f d)
      (Session.upload (pools.map (·.2)) g e) := by
  cases pools with
  | none => exact .error (.refl n) h
  | some p =>
    rcases k.allocate h hroom with ⟨error, d', e', hd, he, hafter⟩ |
      ⟨m, s, t, a, b, d', e', hgrows, hd, he, hst, hs, ht, hafter⟩
    · simp only [Session.upload, Option.map_some, hd, he]
      exact .error (.refl n) hafter
    · have hfg' := hfg.mono hgrows
      obtain ⟨hresult, hcopied⟩ := k.upload (s := s) (t := t) hkeeps hfg' hafter
      simp only [Session.upload, Option.map_some, hd, he]
      rcases hleft : Device.upload p.1 s f d' with ⟨error | _, d₁⟩ <;>
        rcases hright : Device.upload p.2 t g e' with ⟨error' | _, e₁⟩ <;>
        rw [hleft, hright] at hresult hcopied <;> cases hresult
      · exact .error hgrows (releaseSurface hs ht hcopied)
      · obtain ⟨hlent, hshares⟩ := sharesOf_shown hs ht
          (f := (Frame.ofSurface s f.width f.height).withAttributesOf f)
          (g := (Frame.ofSurface t g.width g.height).withAttributesOf g) rfl rfl pairs
        refine .frame hgrows (hfg'.onSurface hst) hlent ?_
        rw [hshares]
        exact hcopied

/-- The devices render from the same place of their windows. -/
theorem render {c c' : Chain} {w x : Window} (hchain : c.Alike c')
    (hwindow : Window.Twin inside w x) (hseen : ∀ p ∈ inside, k.seen n p.1 p.2)
    (hfg : (f, g) ∈ inside) (hfilters : k.left.filters ≠ [])
    (hactive : c.active = k.left.filters) (hactive' : c'.active = k.right.filters)
    (hbuffer : c.deinterlaceBuffer? = k.left.filters.head?)
    (hbuffer' : c'.deinterlaceBuffer? = k.right.filters.head?)
    (hnamed : n.buffers = k.left.filters.zip k.right.filters)
    (h : k.bond n pools (sharesOf pairs) d e) (hroom : k.room pools d e) :
    k.Yields n pools pairs
      (Rendering.render k.left.context c w (pools.map (·.1)) f d)
      (Rendering.render k.right.context c' x (pools.map (·.2)) g e) := by
  have halike : f.Alike n g := k.alike (hseen _ hfg)
  have hvalid := halike.isValid_eq
  unfold Rendering.render
  rw [hvalid]
  split
  · exact .error (.refl n) h
  cases pools with
  | none => exact .error (.refl n) h
  | some p =>
    simp only [Option.map_some]
    rcases k.allocate h hroom with ⟨error, d', e', hd, he, hafter⟩ |
      ⟨m, s, t, a, b, d', e', hgrows, hd, he, hst, hs, ht, hafter⟩
    · simp only [hd, he]
      exact .error (.refl n) hafter
    have hlinked : ∀ p ∈ inside, k.seen m p.1 p.2 := fun p hp => k.seen_mono hgrows (hseen p hp)
    have hmembers : List.Forall₂ (fun a b => (a, b) ∈ m.buffers) c.active c'.active := by
      rw [hactive, hactive', hgrows.buffers, hnamed]
      exact List.forall₂_iff_zip.2 ⟨k.length_eq.symm, fun hmem => hmem⟩
    have hrequest := Rendering.buildRequest_alike hchain hwindow hlinked hfg hst.named hmembers
    have hflags : DeintFlags.ofField (Rendering.fieldOf x) x.topFieldFirst =
        .ofField (Rendering.fieldOf w) w.topFieldFirst := by
      rw [hwindow.fieldOf_eq, hwindow.topFieldFirst_eq]
    obtain ⟨hresult, hdone⟩ := k.submit (.ofField (Rendering.fieldOf w) w.topFieldFirst) hfilters
      hactive hactive' hst.valid hst.valid' hrequest hafter
    rw [← hbuffer, ← hbuffer'] at hresult hdone
    have hfield : ∀ (c : Chain) (w : Window) (f : Frame) (a : SurfaceId),
      (Rendering.buildRequest c w f a).field = Rendering.fieldOf w := fun _ _ _ _ => rfl
    simp only [hd, he, hst.valid, hst.valid', hfield, hflags, Bool.not_true, Bool.false_eq_true,
      if_false]
    rcases hleft : Rendering.submit k.left.context c.deinterlaceBuffer?
        (.ofField (Rendering.fieldOf w) w.topFieldFirst)
        (Rendering.buildRequest c w f s.id) d' with ⟨error | _, d₁⟩ <;>
      rcases hright : Rendering.submit k.right.context c'.deinterlaceBuffer?
        (.ofField (Rendering.fieldOf w) w.topFieldFirst)
        (Rendering.buildRequest c' x g t.id) e' with ⟨error' | _, e₁⟩ <;>
      rw [hleft, hright] at hresult hdone <;> cases hresult
    · exact .error hgrows (releaseSurface hs ht hdone)
    · obtain ⟨hlent, hshares⟩ := sharesOf_shown hs ht (f := Rendering.pictureOf w f s)
        (g := Rendering.pictureOf x g t) rfl rfl pairs
      refine .frame hgrows (Rendering.pictureOf_alike hwindow (halike.mono hgrows) hst) hlent ?_
      rw [hshares]
      exact hdone

/-- Windows that let go of frames give them back. -/
theorem leave {w x later later' : Window} (hwindow : Window.Twin inside w x)
    (hseen : ∀ p ∈ inside, k.seen n p.1 p.2) (hsuffix : later.frames <:+ w.frames)
    (hsuffix' : later'.frames <:+ x.frames) (hblank : later'.blank = later.blank)
    (h : k.bond n pools (sharesOf (inside ++ out)) d e) :
    ∃ rest, Window.Twin rest later later' ∧ (∀ p ∈ rest, k.seen n p.1 p.2) ∧
      k.bond n pools (sharesOf (rest ++ out)) (Device.releaseFrames (w.retired later) d)
        (Device.releaseFrames (x.retired later') e) ∧
      (k.room pools d e → k.room pools (Device.releaseFrames (w.retired later) d)
        (Device.releaseFrames (x.retired later') e)) := by
  obtain ⟨gone, rest, rfl, hgone, hgone', hrest⟩ := hwindow.leave hsuffix hsuffix' hblank
  rw [List.append_assoc] at h
  obtain ⟨hbond, hroom⟩ := releaseFrames
    (fun p hp => k.alike (hseen p (List.mem_append_left _ hp))) h
  rw [hgone, hgone']
  exact ⟨rest, hrest, fun p hp => hseen p (List.mem_append_right _ hp), hbond, hroom⟩

end Coupling

end Deinterlace
