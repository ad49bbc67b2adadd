import Deinterlace.Proofs.Session.Capacity
import Deinterlace.Proofs.Session.Exclusive
import Deinterlace.Proofs.Session.Oblivion
import Deinterlace.Proofs.Va.Housing

/-!
# How many surfaces a pool lends

A pool of a simulated device lends as many surfaces at once as its capacity says, and one of a VA
device thirty-two (`Simulator.lends`, `Va.Display.lends`). Both only refuse when that many are out,
unless a call fails, and then they say so in other words, as long as the driver has other words for
it. So a stream that keeps and looks ahead at few enough frames for that never runs out of surfaces
(`Custody.ample_of_reachable`).
-/
namespace Deinterlace

theorem Device.Upholds.and {σ : Type} [Device σ] {u : Fixtures} {law other : Device.Law σ}
    (h : Upholds u law) (h' : Upholds u other) :
    Upholds u fun pool held d => law pool held d ∧ other pool held d where
  perm hperm hd := ⟨h.perm hperm hd.1, h'.perm hperm hd.2⟩
  retain hshare hd := ⟨h.retain hshare hd.1, h'.retain hshare hd.2⟩
  release hd := ⟨h.release hd.1, h'.release hd.2⟩
  queryCaps hfilters hd := ⟨h.queryCaps hfilters hd.1, h'.queryCaps hfilters hd.2⟩
  createPool desc _ hd := ⟨h.createPool desc hd.1, h'.createPool desc hd.2⟩
  closePool hd := ⟨h.closePool hd.1, h'.closePool hd.2⟩
  allocate hd := ⟨h.allocate hd.1, h'.allocate hd.2⟩
  upload target frame _ hd := ⟨h.upload target frame hd.1, h'.upload target frame hd.2⟩
  submit flags request _ hbuffer hd :=
    ⟨h.submit flags request hbuffer hd.1, h'.submit flags request hbuffer hd.2⟩

/-- There are no more leases than shares that are out. -/
theorem Leases.Accounts.length_live_le {b : Leases} {held : List Holding} (h : b.Accounts held) :
    b.live.length ≤ held.length := by
  have hkeys : b.live.map (·.key) ⊆ held.map (·.lease) := by
    intro key hkey
    obtain ⟨l, hl, rfl⟩ := List.mem_map.1 hkey
    have hpos := h.holders_pos l hl
    rw [h.holders_eq l hl, List.countP_pos_iff] at hpos
    obtain ⟨share, hshare, heq⟩ := hpos
    exact List.mem_map.2 ⟨share, hshare, beq_iff_eq.1 heq⟩
  have hlength := (List.subperm_of_subset h.distinct hkeys).length_le
  rwa [List.length_map, List.length_map] at hlength

/-! ## What errors say -/

namespace DeviceError

variable {e other : DeviceError}

theorem toList_describe (e : DeviceError) : e.describe.toList =
    e.call.toList ++ '(' :: (") failed: ".toList ++
      (e.message.toList ++ (" (status ".toList ++ ((toString e.status).toList ++ [')'])))) := by
  simp [describe]

/-- The name of the call that failed can be read off the description of an error. -/
theorem call_eq (h : e.describe = other.describe) (hcall : '(' ∉ e.call.toList)
    (hother : '(' ∉ other.call.toList) : e.call = other.call := by
  have hread : ∀ {e : DeviceError}, '(' ∉ e.call.toList →
      e.describe.toList.takeWhile (· != '(') = e.call.toList := by
    intro e he
    have hbefore : ∀ c ∈ e.call.toList, (c != '(') = true := fun c hc =>
      bne_iff_ne.2 fun heq => he (heq ▸ hc)
    rw [toList_describe, List.takeWhile_append_of_pos hbefore,
      List.takeWhile_cons_of_neg (by decide), List.append_nil]
  have hsame := congrArg (fun text => text.toList.takeWhile (· != '(')) h
  rw [hread hcall, hread hother] at hsame
  exact String.toList_inj.1 hsame

theorem bracket_not_mem (n : Int) : '(' ∉ (toString n).toList := by
  have hdigits : ∀ n : Nat, '(' ∉ n.repr.toList := by
    intro n h
    rw [Nat.repr, String.toList_ofList] at h
    exact absurd (Nat.isDigit_of_mem_toDigits (by decide) (by decide) h) (by decide)
  cases n with
  | ofNat n => exact hdigits n
  | negSucc n =>
    have hneg : (toString (Int.negSucc n)).toList = '-' :: (n + 1).repr.toList := by
      show ("-" ++ (n + 1).repr).toList = _
      simp
    rw [hneg, List.mem_cons, not_or]
    exact ⟨by decide, hdigits _⟩

/-- So can its message, which ends at the last bracket that is opened. -/
theorem message_eq (h : e.describe = other.describe) (hcall : e.call = other.call) :
    e.message = other.message := by
  have hread : ∀ e : DeviceError, e.describe.toList.reverse.dropWhile (· != '(') = '(' ::
      (e.call.toList ++ '(' :: (") failed: ".toList ++ (e.message.toList ++ [' ']))).reverse := by
    intro e
    have hsplit : e.describe.toList =
        (e.call.toList ++ '(' :: (") failed: ".toList ++ (e.message.toList ++ [' ']))) ++
          '(' :: ("status ".toList ++ ((toString e.status).toList ++ [')'])) := by
      rw [toList_describe]
      simp
    have hafter : ∀ c ∈ ("status ".toList ++ ((toString e.status).toList ++ [')'])).reverse,
        (c != '(') = true := by
      intro c hc
      rw [bne_iff_ne]
      rintro rfl
      exact bracket_not_mem e.status (by simpa using hc)
    rw [hsplit, List.reverse_append, List.reverse_cons, List.append_assoc,
      List.dropWhile_append_of_pos hafter]
    exact List.dropWhile_cons_of_neg (by decide)
  have hsame := congrArg (fun text => text.toList.reverse.dropWhile (· != '(')) h
  rw [hread, hread, List.cons_inj_right, List.reverse_inj, hcall, List.append_cancel_left_eq,
    List.cons_inj_right, List.append_cancel_left_eq, List.append_cancel_right_eq] at hsame
  exact String.toList_inj.1 hsame

end DeviceError

theorem EntryPoint.not_mem_name (entry : EntryPoint) : '(' ∉ entry.name.toList := by
  cases entry <;> decide

namespace Simulator

/-- The error of a pool that may hand out no more surfaces. -/
def exhausted : DeviceError := ⟨EntryPoint.alloc.name, 2, "pool exhausted"⟩

/-- A pool of a simulated device lends as many surfaces as its capacity says. -/
theorem lends {d : Simulator} {i : PoolId} {p : Pool} (hp : d.pools[i]? = some p) :
    Device.Lends (fun _ held (e : Simulator) => e.Balanced held ∧ d.Aged e) i p.capacity
      exhausted where
  allocate := by
    rintro held e later error ⟨hbalanced, haged⟩ hheld herror
    obtain ⟨q, hq, -, hcapacity⟩ := haged.pools i p hp
    cases hfails : e.fails .alloc with
    | true =>
      have hinjected : Device.allocate i e = (.error (injected .alloc), e) := by
        show Simulator.allocate i e = _
        simp only [Simulator.allocate, hfails, if_true]
      cases hinjected.symm.trans herror
      decide
    | false =>
      have hright := hbalanced.right hq
      have hfull := (hright.exhausted_iff hfails).1 ⟨error, congrArg Prod.fst herror⟩
      have hcount : e.leases.countOf i ≤ e.leases.live.length := List.countP_le_length
      have hlive := hbalanced.sound.accounts.length_live_le
      have hinUse := hright.inUse_eq
      have hleases : e.stock.leases = e.leases := rfl
      rw [hleases] at hlive
      omega
  upload := by
    intro target frame e later error herror
    have hupload : Simulator.upload target frame e = (.error error, later) := herror
    unfold Simulator.upload at hupload
    split at hupload
    · cases hupload
      decide
    · split at hupload
      · cases hupload
      · cases hupload
        decide
  blank := by decide

end Simulator

namespace Va.Display

variable {δ : Type}

/-- No more surfaces of an open pool have been made than are on its shelf or out. -/
theorem Housed.length_made_le {i : PoolId} {held : List Holding} {d : Display δ} {p : Pool}
    (h : d.Housed (some i) none held) (hp : d.pools[i]? = some p) :
    p.made.length ≤ p.free.length + held.length := by
  have hmade := ((h.suits i p hp).made (h.isGone_of_open hp)).length_eq
  have hlive := h.accounts.length_live_le
  have hout : (d.leases.out i).length ≤ d.leases.live.length := by
    rw [Leases.out, List.length_map]
    exact List.length_filter_le _ _
  rw [List.length_map, List.length_append] at hmade
  omega

variable [Library δ] {d later : Display δ}

/-- A VA device never has fewer pools than before. -/
theorem upkeep_length (n : Nat) : Upkeep fun d : Display δ => n ≤ d.pools.length :=
  .of_spares
    { leases := fun _ h => h
      modify := fun _ _ _ _ h => h.trans_eq (List.length_modify ..).symm
      leave := by
        intro d i p _ _ h
        rw [(reclaim_eq _).1, (vacate_eq d i p).1, List.length_modify]
        exact h }
    (by
      intro d later hspares h
      rw [hspares.2]
      exact h)
    (fun desc h => h.trans (List.length_append ▸ Nat.le_add_right _ _))
    fun _ _ _ _ h => h.trans_eq (List.length_modify ..).symm

/-- The driver has other words for its failures than a pool that is out of surfaces. -/
def Plain (δ : Type) [Library δ] : Prop :=
  ∀ (status : Int) (driver : δ),
    (Library.call (.errorString status) driver).2.1 ≠ some exhausted.message

theorem Plain.errorText_ne (h : Plain δ) (status : Int) (driver : δ) :
    (errorText status driver).1 ≠ exhausted.message := by
  have htext := h status driver
  simp only [errorText]
  cases heq : (Library.call (.errorString status) driver).2.1 with
  | some text =>
    rw [heq] at htext
    exact fun hsame => htext (congrArg some hsame)
  | none =>
    -- the text that is made up in its place begins with another letter
    intro hsame
    have hhead := congrArg (fun text => text.toList.head?) hsame
    simp [exhausted] at hhead

theorem error_of_ask {c : Call} {e : DeviceError} (h : d.ask c = (.error e, later)) :
    e.call = c.entry.name ∧
      ∃ status driver, e.message = (errorText status driver : String × δ).1 := by
  rcases d.ask_cases c with ⟨-, heq⟩ | ⟨hstatus, -, -⟩
  · rw [heq] at h
    cases h
  · rw [ask_of_failure hstatus] at h
    cases h
    exact ⟨rfl, _, _, rfl⟩

/-- The calls at which writing an image can fail. -/
theorem call_of_writeImage_error {image : Image} {source : SoftwareImage} {e : DeviceError}
    (h : d.writeImage image source = (.error e, later)) :
    ∃ entry ∈ [EntryPoint.upload, .deriveImage, .mapBuffer], e.call = entry.name := by
  unfold writeImage at h
  split at h
  · cases h
    exact ⟨.deriveImage, by simp, rfl⟩
  · rcases hask : d.ask (.mapBuffer image.buffer) with ⟨cause | _ | address, mapped⟩ <;>
      rw [hask] at h
    · cases h
      exact ⟨.mapBuffer, by simp, (error_of_ask hask).1⟩
    · cases h
      exact ⟨.mapBuffer, by simp, rfl⟩
    · dsimp only at h
      split at h
      · cases h
      · cases h
        exact ⟨.upload, by simp, rfl⟩

/-- The calls at which an upload can fail. -/
theorem call_of_upload_error {i : PoolId} {target : Surface} {frame : Frame} {e : DeviceError}
    (h : Device.upload i target frame d = (.error e, later)) :
    ∃ entry ∈ [EntryPoint.upload, .deriveImage, .mapBuffer], e.call = entry.name := by
  have hupload : Display.upload target frame d = (.error e, later) := h
  unfold Display.upload at hupload
  split at hupload
  · cases hupload
    exact ⟨.upload, by simp, rfl⟩
  · rename_i source _
    rcases hask : d.ask (.deriveImage target.id.value) with ⟨cause | image, derived⟩ <;>
      rw [hask] at hupload
    · cases hupload
      exact ⟨.deriveImage, by simp, (error_of_ask hask).1⟩
    · dsimp only at hupload
      rcases hwritten : derived.writeImage image source with ⟨cause | _, written⟩ <;>
        rw [hwritten] at hupload <;> cases hupload
      exact call_of_writeImage_error hwritten

/-- A pool of a VA device lends as many surfaces as any pool may make. -/
theorem lends (hplain : Plain δ) {i : PoolId} (hi : i < d.pools.length) :
    Device.Lends (fun pool held (e : Display δ) => e.Housed pool none held ∧
      d.pools.length ≤ e.pools.length) i maxPoolSurfaces exhausted where
  allocate := by
    rintro held e later error ⟨hhoused, hlength⟩ hheld herror
    obtain ⟨p, hp⟩ : ∃ p, e.pools[i]? = some p :=
      ⟨_, List.getElem?_eq_getElem (Nat.lt_of_lt_of_le hi hlength)⟩
    have hmade := hhoused.length_made_le hp
    have hallocate : Display.allocate i e = (.error error, later) := herror
    simp only [Display.allocate, hp] at hallocate
    cases hfree : p.free with
    | cons id rest =>
      simp only [hfree] at hallocate
      cases hallocate
    | nil =>
      rw [hfree, List.length_nil] at hmade
      have hroom : ¬ maxPoolSurfaces ≤ p.made.length := by omega
      simp only [hfree, if_neg hroom] at hallocate
      rcases hask : e.ask (makes p.desc) with ⟨cause | id, asked⟩ <;> rw [hask] at hallocate <;>
        cases hallocate
      obtain ⟨hcall, status, driver, hmessage⟩ := error_of_ask hask
      exact fun hlack => hplain.errorText_ne status driver
        (hmessage.symm.trans (DeviceError.message_eq hlack hcall))
  upload := by
    intro target frame e later error herror hlack
    obtain ⟨entry, hentry, hcall⟩ := call_of_upload_error herror
    have hsame := DeviceError.call_eq hlack (hcall ▸ entry.not_mem_name)
      (EntryPoint.not_mem_name .createSurfaces)
    rw [hcall] at hsame
    simp only [List.mem_cons, List.not_mem_nil, or_false] at hentry
    rcases hentry with rfl | rfl | rfl <;> exact absurd hsame (by decide)
  blank := by decide

/-- A session that has been set up has one of the pools of its device. -/
theorem exists_pool_of_reconfigure {s t : Session (Display δ)} {params out : StreamParams}
    (h : s.reconfigure params = (.ok out, t)) :
    ∃ i, t.pool = some i ∧ i < t.device.pools.length := by
  rcases s.reconfigure_cases params with ⟨e, device, heq⟩ | ⟨desc, pool, device, -, hmade, heq⟩
  · cases heq.symm.trans h
  · cases heq.symm.trans h
    have hcreate : createPool desc s.forget.device = (.ok pool, device) := hmade
    unfold createPool at hcreate
    split at hcreate
    · cases hcreate
    · cases hcreate
      exact ⟨_, rfl, by simp⟩

end Va.Display

namespace Custody

open Va.Display

/-- A session that has been set up for a stream is at its beginning. -/
theorem Reachable.begins {σ : Type} [Device σ] {harmless : (σ → σ) → Prop} {options : Options}
    {device : σ} {c : Custody σ} (h : Reachable harmless options device c)
    {params out : StreamParams} {s : Session σ}
    (hset : c.session.reconfigure params = (.ok out, s)) :
    s.window.StandsAt [] 0 ∧ s.Agrees := by
  have hs : (c.session.reconfigure params).2 = s := congrArg Prod.snd hset
  subst hs
  refine ⟨?_, Session.reconfigure_agrees h.agrees.1 params⟩
  rw [Session.window_reconfigure]
  exact .flush _

/-- **How many surfaces a stream of frames in memory needs.** A session is set up for a stream when
its caller holds no pictures. It will keep `backward` earlier frames and look `forward` frames
ahead, for that is what the first input negotiates. If the pool lends as many surfaces at once as
these are, with at least one frame ahead, and two more, no call runs out of surfaces: neither on a
simulated device, whose pools lend as many as it is told, nor on a VA device, whatever its driver
answers, unless it tells of failures in the words of a pool that is out of surfaces. -/
theorem ample_of_reachable (options : Options) {params out : StreamParams}
    {backward forward : Nat} :
    (∀ (d : Simulator) (c : Custody Simulator) (s : Session Simulator), d.Unused →
      Reachable Simulator.Injects options d c → c.held = [] →
      c.session.reconfigure params = (.ok out, s) →
      s.configure.window.backwardDepth = backward → s.configure.window.forwardDepth = forward →
      backward + max forward 1 + 2 ≤ d.poolCapacity →
      s.Ample backward forward Simulator.exhausted) ∧
    (∀ (δ : Type) [Va.Library δ] (path : String) (driver : δ) (d : Va.Display δ)
      (c : Custody (Va.Display δ)) (s : Session (Va.Display δ)), Plain δ →
      openAt path driver = .ok d → Reachable Replaces options d c → c.held = [] →
      c.session.reconfigure params = (.ok out, s) →
      s.configure.window.backwardDepth = backward → s.configure.window.forwardDepth = forward →
      backward + max forward 1 + 2 ≤ Va.maxPoolSurfaces →
      s.Ample backward forward Va.Display.exhausted) := by
  constructor
  · rintro d c s hd hc hheld hset rfl rfl hroom
    obtain ⟨hstand, hagrees⟩ := hc.begins hset
    have hbalanced := (Simulator.obeys_balanced hd hc).reconfigure
      (Simulator.upholds_balanced _) params
    have hparams := Session.params_of_reconfigure (congrArg Prod.fst hset)
    obtain ⟨-, i, p, -, -, hfurnished⟩ := Session.furnished_reconfigure hparams
    rw [hset] at hbalanced hfurnished
    rw [hheld] at hbalanced
    have hcapacity := hfurnished.capacity_eq.trans hc.aged.capacity_eq
    exact s.ample ((Simulator.upholds_balanced _).and (Simulator.upholds_aged _ s.device))
      (Simulator.lends hfurnished.found) hstand hagrees
      ⟨hbalanced.fixtures_eq, hbalanced.holds, .refl _⟩ hfurnished.pool_eq (hcapacity ▸ hroom)
  · rintro δ _ path driver d c s hplain hopen hc hheld hset rfl rfl hroom
    obtain ⟨hstand, hagrees⟩ := hc.begins hset
    have hobeys := (upkeep_length 0).obeys (fun change hchange => ⟨hchange, fun e he => ?_⟩)
      (unused_of_openAt hopen).1 (Nat.zero_le _) hc
    · have hafter := hobeys.reconfigure ((upkeep_length 0).upholds _) params
      obtain ⟨i, hpool, hlt⟩ := exists_pool_of_reconfigure hset
      rw [hset, hheld] at hafter
      exact s.ample ((upkeep_length s.device.pools.length).upholds _) (lends hplain hlt) hstand
        hagrees ⟨hafter.fixtures_eq, hafter.holds.1, Nat.le_refl _⟩ hpool hroom
    · exact Nat.zero_le _

/-- A device that asks for one frame on either side, and whose pools lend as many surfaces as it is
told. -/
def snugDevice (capacity : Nat) : Simulator :=
  { ({} : Simulator).withReferences 1 1 with poolCapacity := capacity }

/-- An interlaced frame in memory. -/
def softFrame : Frame := { Frame.ofImage (.filled .nv12 2 2 0) with fields := ⟨3⟩ }

/-- The scripted driver answers with other words, if it has any. -/
theorem plain_driver : Plain (Va.Logged Va.Driver) := by
  intro status l htext
  have htext : (if l.driver.returnsNull .errorString then none
      else some ("va error " ++ toString status)) = some exhausted.message := htext
  split at htext
  · cases htext
  · have hhead := congrArg (fun text => text.toList.head?) (Option.some.inj htext)
    simp [exhausted] at hhead

theorem ample_of_snugDevice :
    (∃ s out t, Session.open? {} (snugDevice 4) = .ok s ∧
      s.reconfigure (.software .nv12 2 2) = (.ok out, t) ∧ t.Ample 1 1 Simulator.exhausted) ∧
    ∃ d s out t, openAt "/dev/null" (⟨bobDriver, []⟩ : Va.Logged Va.Driver) = .ok d ∧
      Session.open? {} d = .ok s ∧ s.reconfigure (.software .nv12 2 2) = (.ok out, t) ∧
      t.Ample 0 0 Va.Display.exhausted := by
  constructor
  · obtain ⟨s, hs⟩ : ∃ s, Session.open? {} (snugDevice 4) = .ok s := ⟨_, rfl⟩
    have hreached : Reachable Simulator.Injects {} (snugDevice 4) { session := s } := .opened hs
    obtain ⟨out, t, hset⟩ : ∃ out t, s.reconfigure (.software .nv12 2 2) = (.ok out, t) := by
      cases hs
      exact ⟨_, _, rfl⟩
    refine ⟨s, out, t, hs, hset, (ample_of_reachable {}).1 (snugDevice 4) { session := s } t
      ⟨rfl, rfl, rfl, rfl, rfl, rfl⟩ hreached rfl hset ?_ ?_ (by decide)⟩ <;>
    · cases hs
      cases hset
      rfl
  · obtain ⟨s, hs⟩ : ∃ s, Session.open? {} bobDisplay = .ok s := ⟨_, rfl⟩
    have hreached : Reachable Replaces {} bobDisplay { session := s } := .opened hs
    obtain ⟨out, t, hset⟩ : ∃ out t, s.reconfigure (.software .nv12 2 2) = (.ok out, t) := by
      cases hs
      exact ⟨_, _, rfl⟩
    refine ⟨bobDisplay, s, out, t, openAt_bobDriver, hs, hset,
      (ample_of_reachable {}).2 (Va.Logged Va.Driver) "/dev/null" ⟨bobDriver, []⟩ bobDisplay
        { session := s } t plain_driver openAt_bobDriver hreached rfl hset ?_ ?_ (by decide)⟩ <;>
    · cases hs
      cases hset
      rfl

/-- With one surface fewer, the target of the picture between the other two frames is missing. -/
theorem not_ample_of_scarceDevice : ∃ s out t, Session.open? {} (snugDevice 3) = .ok s ∧
    s.reconfigure (.software .nv12 2 2) = (.ok out, t) ∧ ¬ t.Ample 1 1 Simulator.exhausted := by
  refine ⟨_, _, _, rfl, rfl, fun hample => ?_⟩
  have hsoft : ∀ x, some softFrame = some x → x.InMemory := by
    rintro x ⟨⟩
    exact ⟨rfl, rfl⟩
  exact hample.take_ne _
    (.input (.take (.take (.input (.input .start rfl hsoft) rfl hsoft))) rfl hsoft) rfl

end Custody

end Deinterlace
