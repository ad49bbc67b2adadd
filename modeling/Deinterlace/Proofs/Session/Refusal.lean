import Deinterlace.Proofs.Device.Capacity
import Deinterlace.Proofs.Session.Feeding
import Deinterlace.Proofs.Session.Sequel
import Deinterlace.Proofs.Simulator.Recycling
import Deinterlace.Proofs.Simulator.Residue

/-!
# A frame that is refused

When a frame in memory cannot be uploaded, the session drops it, and apart from the negotiation it
is as if the frame had never been offered (`Custody.unoffered_of_refused`). What is left of the
upload is at most a surface more on the shelf of a pool, which shows in the numbers of surfaces only
(`Session.inStep_of_refused`).
-/
namespace Deinterlace

open Simulator

/-! ## Every frame beside itself -/

theorem sharesOf_diagonal (frames : List Frame) :
    sharesOf (diagonal frames) = diagonal (holdings frames) := by
  have hself : ∀ f : Frame, share? (f, f) = f.holding?.map fun share => (share, share) := by
    intro f
    unfold share?
    cases f.holding? <;> rfl
  induction frames with
  | nil => rfl
  | cons f frames ih =>
    have hcons : diagonal (f :: frames) = (f, f) :: diagonal frames := rfl
    rw [hcons, sharesOf_cons, hself, ih, holdings_cons]
    cases f.holding? <;> rfl

/-- A frame is like itself if the surface that it has a share in stands for itself. -/
theorem Frame.Alike.of_named {n : Names} {f : Frame}
    (h : ∀ share, f.holding? = some share →
      (share.surface, share.surface) ∈ n.surfaces ∧ share.surface.isValid = true) :
    f.Alike n f := by
  cases hshare : f.holding? with
  | none => exact .refl n hshare
  | some share =>
    obtain ⟨hnamed, hvalid⟩ := h share hshare
    obtain ⟨s, hsurface, hlent⟩ := Option.bind_eq_some_iff.1 hshare
    obtain ⟨key, -, rfl⟩ := Option.map_eq_some_iff.1 hlent
    refine ⟨rfl, ?_⟩
    unfold surface? at hsurface
    cases hcontent : f.content with
    | image =>
      rw [hcontent] at hsurface
      cases hsurface
    | surface s' =>
      rw [hcontent] at hsurface
      cases hsurface
      exact .lent ⟨hnamed, rfl, rfl, hvalid, hvalid, _, _, hlent, hlent⟩

/-! ## Beside the session without the upload -/

namespace Session

variable {s : Session Simulator} {f : Frame} {rest : List Frame}

/-- An input that gives an error is an upload that fails. -/
theorem upload_of_refused {e : Error} (h : (s.input (some f)).1 = .error e) :
    ∃ later, upload s.configure.pool f s.configure.device = (.error e, later) ∧
      (s.input (some f)).2 = { s.configure with device := Device.releaseFrame f later } := by
  cases hhard : f.format.isHardware with
  | true =>
    rw [s.input_of_format hhard] at h
    cases h
  | false =>
    rcases hup : upload s.configure.pool f s.configure.device with ⟨error | uploaded, later⟩ <;>
      rw [s.input_of_uploaded hhard hup] at h ⊢ <;> cases h
    exact ⟨later, rfl, rfl⟩

/-- The names by which all surfaces and filters of a session stand for themselves. -/
def ownNames (s : Session Simulator) : Names :=
  ⟨diagonal s.device.stock.ids, s.fixtures.filters.zip s.fixtures.filters⟩

/-- Every frame that there is stands for itself while the numbers last. -/
theorem alike_ownNames {frames : List Frame} (hbalanced : s.device.Balanced (holdings frames))
    (hroom : s.device.nextId ≤ (Handle.invalid : SurfaceId).value) {g : Frame} (hg : g ∈ frames) :
    g.Alike s.ownNames g := by
  refine .of_named fun share hshare => ?_
  have hmem : share ∈ holdings frames := List.mem_filterMap.2 ⟨g, hg, hshare⟩
  refine ⟨mem_diagonal.2 ⟨_, List.mem_append_right _ (hbalanced.sound.surface_mem hmem), rfl⟩, ?_⟩
  exact Linked.isValid_of_lt (hbalanced.sound.surface_lt hmem) hroom

/-- After an upload that failed, the device mirrors the one before. -/
theorem bond_of_failed {frames : List Frame} (hbalanced : s.device.Balanced (holdings frames))
    (hequipped : s.device.Equipped s.fixtures) {e : Error} {later : Simulator}
    (hup : upload s.pool f s.device = (.error e, later)) (outer : List SurfaceId) :
    (mirroring ⟨s.fixtures, outer, s.device.rendered⟩).bond s.ownNames
      (s.pool.map fun p => (p, p)) (sharesOf (diagonal frames)) later s.device := by
  have hlater : (upload s.pool f s.device).2.Balanced
      (holdings ((upload s.pool f s.device).1.toOption.toList ++ frames)) :=
    (upholds_balanced s.fixtures).uploadFrame f hbalanced
  have hequipped' : (upload s.pool f s.device).2.Equipped s.fixtures :=
    @Device.Upholds.uploadFrame _ _ _ _ s.pool [] s.device (upholds_equipped _) f hequipped
  rw [hup] at hlater hequipped'
  refine ⟨fun x hx => ?_, ?_⟩
  · obtain ⟨p, -, rfl⟩ := Option.map_eq_some_iff.1 hx
    rfl
  · rw [sharesOf_diagonal]
    exact (residue_upload hbalanced hup).mirrored hbalanced hlater hequipped' hequipped rfl _

/-- A session that has tried to upload a frame in vain is in step with the session that has only
dropped the frame. -/
theorem inStep_of_refused (hagrees : s.Agrees)
    (hbalanced : s.device.Balanced (holdings (s.window.frames ++ f :: rest)))
    (hequipped : s.device.Equipped s.fixtures) {e : Error} {later : Simulator}
    (hup : upload s.pool f s.device = (.error e, later)) {outer : List SurfaceId}
    (houter : ∀ g ∈ s.window.frames ++ rest, g.holding? = none → g.surfaceId ∈ outer)
    (hroom : s.device.nextId ≤ (Handle.invalid : SurfaceId).value) :
    InStep (mirroring ⟨s.fixtures, outer, s.device.rendered⟩) s.ownNames
      (s.pool.map fun p => (p, p)) (diagonal s.window.frames) (diagonal rest)
      { s with device := Device.releaseFrame f later } (s.dropFrame f) := by
  have hbond := bond_of_failed hbalanced hequipped hup outer
  have hparted : diagonal (s.window.frames ++ f :: rest) =
      diagonal s.window.frames ++ (f, f) :: diagonal rest := by simp [diagonal]
  rw [hparted] at hbond
  have hself : f.Alike s.ownNames f :=
    alike_ownNames hbalanced hroom (List.mem_append_right _ List.mem_cons_self)
  have hseen : ∀ g ∈ s.window.frames ++ rest,
      (mirroring ⟨s.fixtures, outer, s.device.rendered⟩).seen s.ownNames g g := by
    refine fun g hg => ⟨alike_ownNames hbalanced hroom ?_, houter g hg⟩
    exact List.perm_middle.mem_iff.2 (List.mem_cons_of_mem f hg)
  refine ⟨rfl, rfl, hagrees.congr rfl rfl rfl rfl hagrees.held,
    hagrees.congr rfl rfl rfl rfl hagrees.held, ⟨rfl, rfl, .rfl, rfl⟩,
    ⟨(map_fst_diagonal _).symm, (map_snd_diagonal _).symm, rfl⟩, ?_, ?_, rfl, rfl, ?_, ?_, ?_⟩
  · show s.pool = (s.pool.map fun p => (p, p)).map (·.1)
    cases s.pool <;> rfl
  · show s.pool = (s.pool.map fun p => (p, p)).map (·.2)
    cases s.pool <;> rfl
  · intro p hp
    obtain ⟨g, hg, rfl⟩ := mem_diagonal.1 hp
    exact hseen g (List.mem_append_left _ hg)
  · intro p hp
    obtain ⟨g, hg, rfl⟩ := mem_diagonal.1 hp
    exact .of_seen (hseen g (List.mem_append_right _ hg))
  · exact (Coupling.releaseFrame hself (Coupling.permFrames List.perm_middle hbond)).1

end Session

namespace Custody

variable {c : Custody Simulator} {f : Frame} {rest : List Frame}

/-- The caller offers a frame to the session, one that it brings along or one that it holds, and is
left with the others. -/
inductive Offers (c : Custody Simulator) (f : Frame) : List Frame → Prop
  | brought (h : f.holding? = none) : Offers c f c.held
  | kept {place : Nat} (h : c.held[place]? = some f) : Offers c f (c.held.eraseIdx place)

/-- A frame that is offered is among those of the caller. -/
theorem Offers.obeys (h : c.Offers f rest) {u : Fixtures} {law : Device.Law Simulator}
    (hlaw : Device.Upholds u law) (hobeys : c.session.Obeys u law c.held) :
    c.session.Obeys u law (f :: rest) := by
  refine ⟨hobeys.fixtures_eq, ?_⟩
  cases h with
  | brought hfree =>
    refine hlaw.permFrames List.perm_middle.symm ?_
    rw [holdings_cons, hfree]
    exact hobeys.holds
  | kept hplace => exact hlaw.permFrames ((perm_eraseIdx hplace).append_left _) hobeys.holds

/-- Whatever comes next, it is as if the frame had only been dropped. -/
theorem sameAfterwards_of_failed {s : Session Simulator} (hagrees : s.Agrees)
    (hbalanced : s.device.Balanced (holdings (s.window.frames ++ f :: rest)))
    (hequipped : s.device.Equipped s.fixtures) {e : Error} {later : Simulator}
    (hup : Session.upload s.pool f s.device = (.error e, later)) {after : Custody Simulator}
    (hafter : after = ⟨{ s with device := Device.releaseFrame f later }, rest⟩)
    {qs : List Sequel} (hqs : ∀ q ∈ qs, q.FromOutside)
    (hlast : (after.ensues qs).session.device.nextId < (Handle.invalid : SurfaceId).value) :
    SameAfterwards qs after ⟨s.dropFrame f, rest⟩ := by
  have hroom : s.device.nextId ≤ (Handle.invalid : SurfaceId).value := by
    have hle : after.session.device.nextId ≤ _ := nextId_le_ensues hqs
    have hsame : after.session.device.nextId = later.nextId := by
      rw [hafter]
      exact nextId_releaseFrame f later
    have hmade := (residue_upload hbalanced hup).nextId_le
    omega
  have houter : ∀ g ∈ s.window.frames ++ rest, g.holding? = none →
      g.surfaceId ∈ after.strangers ++ Sequel.surfaces qs := by
    intro g hg hfree
    refine List.mem_append_left _ (List.mem_map_of_mem (List.mem_filter.2 ⟨?_, ?_⟩))
    · rw [hafter]
      exact hg
    · rw [hfree]
      rfl
  have hstart : InStep (mirroring ⟨s.fixtures, after.strangers ++ Sequel.surfaces qs,
      s.device.rendered⟩) s.ownNames (s.pool.map fun p => (p, p)) (diagonal s.window.frames)
      (diagonal rest) after ⟨s.dropFrame f, rest⟩ := by
    have hstep := Session.inStep_of_refused hagrees hbalanced hequipped hup houter hroom
    rw [hafter] at hstep ⊢
    exact ⟨hstep, (map_fst_diagonal rest).symm, (map_snd_diagonal rest).symm,
      fun hnot => absurd trivial hnot⟩
  refine hstart.sameAfterwards ?_ hqs rfl ?_ (rendered_releaseFrame f s.device) hlast
  · rw [hafter]
    exact ⟨rfl, rfl⟩
  · rw [hafter]
    exact (rendered_releaseFrame f later).trans (residue_upload hbalanced hup).rendered_eq

/-- **A frame that cannot be uploaded might as well not have been offered.** In whatever state a
session is, and whichever frame of its caller's it refuses: apart from the device it is what the
negotiation alone makes of it, once the frame has been dropped, and the same surfaces are out. If
the negotiation finds nothing new since an input, that is the session as it was. And whatever comes
next, other calls that fail and new streams included, the caller is told the same up to surfaces,
as long as the numbers last. -/
theorem unoffered_of_refused {options : Options} {d : Simulator} (hd : d.Unused)
    (hc : Reachable Injects options d c) (hoffer : c.Offers f rest) {e : Error}
    (hrefused : (c.session.input (some f)).1 = .error e) {after only : Custody Simulator}
    (hafter : after = ⟨(c.session.input (some f)).2, rest⟩)
    (honly : only = ⟨c.session.configure.dropFrame f, rest⟩) :
    after.session = { c.session.configure with device := after.session.device } ∧
    only.session.device.SameOut after.session.device ∧
    (f.holding? = none → only.session = c.session.configure) ∧
    (∀ b frame, Reachable Injects options d b →
      c.session.chain = (b.session.input frame).2.chain →
      c.session.deinterlacing = b.session.deinterlacing → c.session.configure = c.session) ∧
    ∀ qs : List Sequel, (∀ q ∈ qs, q.FromOutside) →
      (after.ensues qs).session.device.nextId < (Handle.invalid : SurfaceId).value →
        SameAfterwards qs after only := by
  have hagrees := (Session.configure_agrees hc.agrees.1).1
  obtain ⟨later, hup, hinput⟩ := Session.upload_of_refused hrefused
  rw [hinput] at hafter
  have hbalanced := ((hoffer.obeys (upholds_balanced _) (obeys_balanced hd hc)).configure
    (upholds_balanced _)).holds
  have hequipped := ((hoffer.obeys (upholds_equipped _) (obeys_equipped hd hc)).configure
    (upholds_equipped _)).holds
  subst hafter honly
  refine ⟨rfl, (residue_upload hbalanced hup).sameOut.releaseFrame f, ?_, ?_, ?_⟩
  · intro hfree
    unfold Session.dropFrame
    rw [Device.releaseFrame_of_unleased (f.lease?_eq.trans (congrArg _ hfree))]
  · intro b frame hb hchain hswitch
    have hsettled := Session.settled_input hb.agrees.1 frame
    refine Session.configure_of_last ?_
    rw [Session.Settled, b.session.deinterlacing_input, ← hchain, ← hswitch] at hsettled
    exact hsettled
  · intro qs hqs hlast
    exact sameAfterwards_of_failed hagrees hbalanced
      (c.session.fixtures_configure.symm ▸ hequipped) hup rfl hqs hlast

/-- An interlaced frame on the device. -/
def hardFrame : Frame := { Frame.decoded ⟨1⟩ 2 2 with fields := ⟨3⟩ }

/-- A stream in which uploads begin to fail. -/
def stalling : List (Deed Simulator) :=
  [.call (.reconfigure (.hardware 2 2 2 2)), .call (.input (some hardFrame)),
    .call (.alter fun d => d.failOn .upload)]

/-- Uploads work again, and later there is another stream. -/
def recovery : List Sequel :=
  [.fail [], .move (.input (some softFrame)), .move .output, .move .output, .move (.share 0),
    .move (.reconfigure (.hardware 4 4 4 4)), .move (.drop 0), .move (.input (some hardFrame)),
    .move .take]

theorem fromOutside_recovery : recovery.Forall Sequel.FromOutside := by
  have hsoft : ∀ f, some softFrame = some f → f.holding? = none := by
    rintro f ⟨⟩
    rfl
  have hhard : ∀ f, some hardFrame = some f → f.holding? = none := by
    rintro f ⟨⟩
    rfl
  exact ⟨trivial, hsoft, trivial, trivial, trivial, trivial, trivial, hhard, trivial⟩

/-- A frame in memory that is refused leaves a surface on the shelf of the pool, and no other
trace. -/
theorem unoffered_of_stalling : ∃ c : Custody Simulator,
    Reachable Injects {} {} c ∧ c.session.window.frames.length = 1 ∧
    ∃ e after only, c.session.input (some softFrame) = (.error e, after.session) ∧
      only = { session := c.session } ∧ after.session.device.pools.map (·.allocated) = [1] ∧
      only.session.device.pools.map (·.allocated) = [0] ∧ SameAfterwards recovery after only := by
  obtain ⟨s, hs⟩ : ∃ s, Session.open? {} ({} : Simulator) = .ok s := ⟨_, rfl⟩
  have hopened : Reachable Injects {} {} { session := s } := .opened hs
  have hset : Reachable Injects {} {} (act { session := s } (stalling.take 1)) :=
    hopened.act fun _ => trivial
  have hc : Reachable Injects {} {} (act { session := s } stalling) := by
    refine hopened.act ⟨fun _ => trivial, ?_, fun _ d => ⟨_, rfl⟩⟩
    rintro c given ⟨⟩
    rfl
  cases hs
  have hd : ({} : Simulator).Unused := ⟨rfl, rfl, rfl, rfl, rfl, rfl⟩
  obtain ⟨-, -, hdropped, hsettled, hsame⟩ :=
    unoffered_of_refused hd hc (.brought (f := softFrame) rfl) rfl rfl rfl
  have honly := (hdropped rfl).trans (hsettled _ (some hardFrame) hset rfl rfl)
  exact ⟨_, hc, rfl, _, _, _, rfl, congrArg (Custody.mk · []) honly, rfl, rfl,
    hsame recovery (List.forall_iff_forall_mem.1 fromOutside_recovery) (by decide)⟩

end Custody

end Deinterlace
