import Deinterlace.Proofs.Va.Compliant
import Deinterlace.Proofs.Va.Scripted

/-!
# Scripted drivers that comply

A scripted driver complies if its script makes nothing fail, forces no numbers on surfaces and
buffers, maps what can be mapped, and counts what it tells (`Driver.complies_of_truthful`). Its
numbers come from a counter, which is above those of all buffers that there are (`Driver.Keeps`).
-/
namespace Deinterlace.Va

/-- Nothing fails, surfaces and buffers are numbered by the counter, what is mapped can be written
to, and there is room for what the queries tell and count. -/
structure Script.Truthful (s : Script) : Prop where
  failures : s.failures = []
  surfaces : s.forced.lookup .surface = none
  buffers : s.forced.lookup .buffer = none
  mapped : s.mapsNull = false
  filters_le : s.filters.length ≤ maxFilters
  filterCount : s.filterCount.getD s.filters.length = s.filters.length
  algorithms_le : s.algorithms.length ≤ maxAlgorithms
  algorithmCount : s.algorithmCount.getD s.algorithms.length = s.algorithms.length

def Script.offer (s : Script) : Offer where
  filters := s.filters
  algorithms := s.algorithms
  forward := s.forward
  backward := s.backward

/-- A table that has room for all and counts all tells all. -/
theorem Table.counted_fill {room : Nat} {values : List Int} {reported : Option Nat}
    (hroom : values.length ≤ room) (hcount : reported.getD values.length = values.length) :
    (Table.fill room values reported).counted = values := by
  show (values.take room ++ List.replicate (room - values.length) 0).take
    (reported.getD values.length) = values
  rw [hcount, List.take_of_length_le hroom, List.take_left' rfl]

/-- What can be mapped: all but the parameters of a picture. -/
def Buffer.IsMappable : Buffer → Prop
  | .params (.picture _) => False
  | _ => True

namespace Driver

variable {s : Script} {known : List (Nat × Nat)} {d : Driver}

/-- The counter gives numbers that name an object, each above those before. -/
theorem number_of_unforced (kind : ObjectKind) (h : d.script.forced.lookup kind = none) :
    d.nextId ≤ (d.number kind).1 ∧ (d.number kind).1 ≠ noObject ∧
      (d.number kind).2.nextId = (d.number kind).1 + 1 := by
  unfold number
  rw [h]
  dsimp only
  split <;> omega

/-- A buffer can be mapped. -/
def Mappable (d : Driver) (id : Nat) : Prop := ∃ contents ∈ d.buffer? id, contents.IsMappable

theorem mapBuffer_of_mappable {id : Nat} (hmapped : d.script.mapsNull = false)
    (h : d.Mappable id) : mapBuffer id d = (success, some id, d) := by
  obtain ⟨contents, hcontents, hmappable⟩ := h
  have hbuffer : d.buffer? id = some contents := hcontents
  unfold mapBuffer
  rw [hmapped, hbuffer, if_neg Bool.false_ne_true]
  match contents with
  | .params (.filter _) | .image _ => rfl
  | .params (.picture _) => exact hmappable.elim

theorem Mappable.setBuffer {id : Nat} (h : d.Mappable id) (other : Nat) {contents : Buffer}
    (hcontents : other = id → contents.IsMappable) : (d.setBuffer other contents).Mappable id := by
  unfold Mappable
  rw [buffer?_setBuffer]
  split
  · rename_i heq
    exact ⟨contents, rfl, hcontents heq.symm⟩
  · exact h

/-- A driver by the script `s` that keeps the buffers `known`: they have numbers below the next one,
and filters can be mapped. -/
structure Keeps (s : Script) (known : List (Nat × Nat)) (d : Driver) : Prop where
  script_eq : d.script = s
  below : ∀ b ∈ known, b.1 < d.nextId
  mappable : ∀ id, (id, filterBufferType) ∈ known → d.Mappable id

namespace Keeps

/-- What has been written down and the sizes of surfaces do not matter. -/
theorem congr (h : Keeps s known d) {later : Driver} (hscript : later.script = d.script)
    (hnext : d.nextId ≤ later.nextId) (hbuffers : later.buffers = d.buffers) :
    Keeps s known later where
  script_eq := hscript.trans h.script_eq
  below b hb := Nat.lt_of_lt_of_le (h.below b hb) hnext
  mappable := by
    unfold Mappable buffer?
    rw [hbuffers]
    exact h.mappable

theorem number (h : Keeps s known d) (kind : ObjectKind) : Keeps s known (d.number kind).2 := by
  unfold Driver.number
  split
  · exact h
  · refine h.congr rfl ?_ rfl
    dsimp only
    split <;> omega

theorem setMappable (h : Keeps s known d) (id : Nat) {contents : Buffer}
    (hcontents : contents.IsMappable) : Keeps s known (d.setBuffer id contents) where
  script_eq := h.script_eq
  below := h.below
  mappable other hother := (h.mappable other hother).setBuffer id fun _ => hcontents

/-- A buffer that is made has a number that is above the others. -/
theorem make (h : Keeps s known d) (hs : s.Truthful) (contents : Params) :
    (∀ b ∈ known, b.1 < (d.number .buffer).1) ∧
      Keeps s (((d.number .buffer).1, contents.typeCode) :: known)
        ((d.number .buffer).2.setBuffer (d.number .buffer).1 (.params contents)) := by
  obtain ⟨hle, -, hnext⟩ := d.number_of_unforced .buffer (h.script_eq ▸ hs.buffers)
  have hbelow : ∀ b ∈ known, b.1 < (d.number .buffer).1 :=
    fun b hb => Nat.lt_of_lt_of_le (h.below b hb) hle
  refine ⟨hbelow, (h.number .buffer).script_eq, ?_, fun id hid => ?_⟩
  · intro b hb
    show b.1 < (d.number .buffer).2.nextId
    rw [hnext]
    rcases List.mem_cons.1 hb with rfl | hb
    · exact Nat.lt_succ_self _
    · exact Nat.lt_succ_of_lt (hbelow b hb)
  · rcases List.mem_cons.1 hid with heq | hid
    · obtain ⟨rfl, htype⟩ := Prod.mk.inj heq
      refine ⟨.params contents, by rw [buffer?_setBuffer, if_pos rfl]; rfl, ?_⟩
      cases contents with
      | filter => trivial
      | picture => cases htype
    · refine ((h.number .buffer).mappable id hid).setBuffer _ fun heq => ?_
      exact absurd (heq ▸ hbelow _ hid) (Nat.lt_irrefl _)

theorem erase (h : Keeps s known d) (id : Nat) :
    Keeps s (known.filter (·.1 != id)) (d.eraseBuffer id) where
  script_eq := h.script_eq
  below b hb := h.below b (List.mem_of_mem_filter hb)
  mappable other hother := by
    obtain ⟨hmem, hne⟩ := List.mem_filter.1 hother
    unfold Mappable
    rw [d.buffer?_eraseBuffer_ne (bne_iff_ne.1 hne)]
    exact h.mappable other hmem

/-- The buffers that there are by the log are kept by a call that does not fail. -/
theorem serve (h : Keeps s known d) (hs : s.Truthful) (c : Call) :
    Keeps s (Event.changeBuffers (.called c (serve c d).1 (serve c d).2.1) known)
      (serve c d).2.2 := by
  cases c with
  | createConfig => exact h.number .config
  | createContext => exact h.number .context
  | createSurfaces => exact (h.number .surface).congr rfl (Nat.le_refl _) rfl
  | createBuffer context count contents => exact (h.make hs contents).2
  | destroyBuffer id => exact h.erase id
  | mapBuffer id =>
    simp only [Driver.serve, mapBuffer]
    split
    · exact h
    · split <;> exact h
  | deriveImage surface => exact ((h.number .image).number .imageBuffer).setMappable _ trivial
  | _ => exact h

end Keeps

/-- Nothing is made to fail. -/
theorem call_of_truthful (hs : s.Truthful) (hd : d.script = s) (c : Call) :
    ∃ history, Library.call c d = serve c (d.relog history) := by
  have hworks : d.failure? c = none := by
    unfold failure?
    rw [hd, hs.failures]
    split <;> rfl
  have hnoted : ∃ history, (if notes c then d.record (d.entryOf c) else d) = d.relog history := by
    split <;> exact ⟨_, rfl⟩
  obtain ⟨history, heq⟩ := hnoted
  refine ⟨history, ?_⟩
  show answer c d = _
  unfold answer
  rw [hworks, heq]

section Logged

variable {l later : Logged Driver}

theorem Keeps.call (h : Keeps s (Va.buffers l.log) l.driver) (hs : s.Truthful) (c : Call) :
    Keeps s (Va.buffers (Library.call c l).2.2.log) (Library.call c l).2.2.driver := by
  obtain ⟨history, heq⟩ := call_of_truthful hs h.script_eq c
  have hrelogged : Keeps s (Va.buffers l.log) (l.driver.relog history) :=
    h.congr rfl (Nat.le_refl _) rfl
  show Keeps s (Event.changeBuffers (.called c (Library.call c l.driver).1
    (Library.call c l.driver).2.1) (Va.buffers l.log)) (Library.call c l.driver).2.2
  rw [heq]
  exact hrelogged.serve hs c

theorem Keeps.write (h : Keeps s (Va.buffers l.log) l.driver) (address : Address)
    (patch : Patch) : Keeps s (Va.buffers (Library.write address patch l).log)
      (Library.write address patch l).driver := by
  show Keeps s (Va.buffers l.log) (Library.write address patch l.driver)
  cases patch with
  | flags bits =>
    show Keeps s (Va.buffers l.log) (l.driver.writeFlags address bits)
    unfold writeFlags
    split
    · exact h.setMappable address trivial
    · exact h.setMappable address trivial
    · exact h
    · exact h
  | bytes bytes => exact h.setMappable address trivial

theorem Keeps.leads (hs : s.Truthful) (h : Keeps s (Va.buffers l.log) l.driver)
    (hleads : Leads (fun _ _ => True) l later) : Keeps s (Va.buffers later.log) later.driver := by
  induction hleads with
  | refl => exact h
  | call c _ _ ih => exact ih.call hs c
  | write address patch _ ih => exact ih.write address patch

theorem Keeps.exists_serve (h : Keeps s (Va.buffers l.log) l.driver) (hs : s.Truthful) (c : Call) :
    ∃ history, (Library.call c l).1 = (Driver.serve c (l.driver.relog history)).1 ∧
      (Library.call c l).2.1 = (Driver.serve c (l.driver.relog history)).2.1 := by
  obtain ⟨history, heq⟩ := call_of_truthful hs h.script_eq c
  refine ⟨history, ?_, ?_⟩ <;> rw [← heq] <;> rfl

theorem Keeps.answers (h : Keeps s (Va.buffers l.log) l.driver) (hs : s.Truthful) :
    Answers s.offer l where
  succeeds c hc := by
    obtain ⟨history, hstatus, -⟩ := h.exists_serve hs c
    rw [hstatus]
    cases c with
    | mapBuffer id =>
      have hmapped := mapBuffer_of_mappable (d := l.driver.relog history)
        (h.script_eq ▸ hs.mapped) (h.mappable id (hc id rfl))
      exact congrArg (·.1) hmapped
    | _ => rfl
  surface_valid layout width height count attributes := by
    obtain ⟨history, -, hid⟩ :=
      h.exists_serve hs (.createSurfaces layout width height count attributes)
    rw [hid]
    exact ((l.driver.relog history).number_of_unforced .surface (h.script_eq ▸ hs.surfaces)).2.1
  buffer_fresh context count contents _ := by
    obtain ⟨history, -, hid⟩ := h.exists_serve hs (.createBuffer context count contents)
    have hle :=
      ((l.driver.relog history).number_of_unforced .buffer (h.script_eq ▸ hs.buffers)).1
    rw [hid]
    intro hmem
    obtain ⟨b, hb, heq⟩ := List.mem_map.1 hmem
    exact Nat.ne_of_lt (Nat.lt_of_lt_of_le (h.below b hb) hle) heq
  mapped id hid := by
    obtain ⟨history, -, haddress⟩ := h.exists_serve hs (.mapBuffer id)
    have hmapped := mapBuffer_of_mappable (d := l.driver.relog history)
      (h.script_eq ▸ hs.mapped) (h.mappable id hid)
    rw [haddress, Driver.serve, hmapped]
    exact Option.some_ne_none id
  filters context := by
    obtain ⟨history, -, htable⟩ := h.exists_serve hs (.queryFilters context maxFilters)
    rw [htable]
    show (Table.fill maxFilters l.driver.script.filters l.driver.script.filterCount).counted = _
    rw [h.script_eq]
    exact Table.counted_fill hs.filters_le hs.filterCount
  algorithms context := by
    obtain ⟨history, -, htable⟩ :=
      h.exists_serve hs (.queryFilterCaps context deinterlacingCode maxAlgorithms)
    rw [htable]
    show (Table.fill maxAlgorithms l.driver.script.algorithms
      l.driver.script.algorithmCount).counted = _
    rw [h.script_eq]
    exact Table.counted_fill hs.algorithms_le hs.algorithmCount
  forward context chain := by
    obtain ⟨history, -, htables⟩ :=
      h.exists_serve hs (.queryPipelineCaps context chain maxStandards maxStandards)
    rw [htables]
    exact congrArg (·.forward) h.script_eq
  backward context chain := by
    obtain ⟨history, -, htables⟩ :=
      h.exists_serve hs (.queryPipelineCaps context chain maxStandards maxStandards)
    rw [htables]
    exact congrArg (·.backward) h.script_eq

end Logged

/-- **A truthful script makes a driver comply.** -/
theorem complies_of_truthful (hs : s.Truthful) :
    Complies s.offer (⟨{ script := s }, []⟩ : Logged Driver) := by
  intro later hleads
  have hstart : Keeps s (Va.buffers []) ({ script := s } : Driver) :=
    ⟨rfl, List.forall_mem_nil _, fun _ => List.not_mem_nil.elim⟩
  exact (Keeps.leads hs hstart hleads).answers hs

end Driver

end Deinterlace.Va
