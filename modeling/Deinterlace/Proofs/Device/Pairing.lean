import Deinterlace.Proofs.Device.Stock

/-!
# Two pools side by side

Two devices that lend surfaces to callers in step keep books and shelves that need not be equal: the
left pool may have surfaces on its shelf, and out, from before the two were put side by side.
`Leases.Paired` says what they have in common. Shares on the left and on the right are of the same
lease together, so that a lease ends on both sides or on neither (`Leases.Paired.release`); the
surfaces that have come back lie on both shelves in the same order, on the left above those from
before; and so a surface that is taken has the same counterpart as the last time, or a new one
(`Leases.Paired.lendKnown`, `Leases.Paired.lendNew`).
-/
namespace Deinterlace.Leases

namespace Accounts

variable {b : Leases} {held : List Holding} {share : Holding}

/-- The lease of a share that is given back ends if it was the last one, and not otherwise. -/
theorem release_eq (h : b.Accounts (share :: held)) :
    ∃ l ∈ b.live, l.key = share.lease ∧ l.surface = share.surface ∧
      ((∀ y ∈ held, y.lease ≠ share.lease) ∧
          b.release? share.lease = (some l, b.without share.lease) ∨
        (∃ y ∈ held, y.lease = share.lease) ∧
          b.release? share.lease = (none, b.adjust share.lease (· - 1))) := by
  obtain ⟨entry, hentry, hkey, hsurface⟩ := h.entered share List.mem_cons_self
  obtain ⟨l, hl, hsame, hcases⟩ := h.release_cases
  have hentered := h.eq_of_key hentry hl (hkey.trans hsame.symm)
  subst hentered
  rw [hkey] at hcases
  refine ⟨entry, hentry, hkey, hsurface, ?_⟩
  rcases hcases with ⟨heq, hlater⟩ | ⟨heq, hlater⟩
  · refine .inl ⟨fun y hy hlease => ?_, heq⟩
    obtain ⟨other, hother, hother', -⟩ := hlater.entered y hy
    exact bne_iff_ne.1 (List.mem_filter.1 hother).2 (hother'.trans hlease)
  · refine .inr ⟨?_, heq⟩
    -- the lease still has a holder
    have hmem : { entry with holders := entry.holders - 1 } ∈
        (b.adjust share.lease (· - 1)).live := by
      refine List.mem_map.2 ⟨entry, hentry, ?_⟩
      rw [if_pos hkey]
    have hpos := hlater.holders_pos _ hmem
    rw [hlater.holders_eq _ hmem, List.countP_pos_iff] at hpos
    obtain ⟨y, hy, hlease⟩ := hpos
    exact ⟨y, hy, (beq_iff_eq.1 hlease).trans hkey⟩

end Accounts

theorem mem_live_adjust {b : Leases} {key : LeaseId} {change : Nat → Nat} {l : Lease}
    (h : l ∈ (b.adjust key change).live) : ∃ before ∈ b.live, l.key = before.key ∧
      l.pool = before.pool := by
  obtain ⟨before, hbefore, rfl⟩ := List.mem_map.1 h
  refine ⟨before, hbefore, ?_⟩
  split <;> exact ⟨rfl, rfl⟩

/-! ## Shares of the same lease -/

/-- Shares are of the same lease on both sides or on neither. -/
def Together (shares : List (Holding × Holding)) : Prop :=
  ∀ x ∈ shares, ∀ y ∈ shares, x.1.lease = y.1.lease ↔ x.2.lease = y.2.lease

namespace Together

variable {shares : List (Holding × Holding)} {share : Holding × Holding}

/-- The last share of a lease is the last one on both sides. -/
theorem last_iff (h : Together (share :: shares)) :
    (∀ x ∈ shares, x.1.lease ≠ share.1.lease) ↔ ∀ x ∈ shares, x.2.lease ≠ share.2.lease := by
  refine forall₂_congr fun x hx => not_congr ?_
  exact h x (List.mem_cons_of_mem _ hx) share List.mem_cons_self

/-- A share of a new lease joins in. -/
theorem cons (h : Together shares) (hnew : ∀ x ∈ shares, x.1.lease ≠ share.1.lease)
    (hnew' : ∀ x ∈ shares, x.2.lease ≠ share.2.lease) : Together (share :: shares) := by
  intro x hx y hy
  rcases List.mem_cons.1 hx with rfl | hx' <;> rcases List.mem_cons.1 hy with rfl | hy'
  · exact ⟨fun _ => rfl, fun _ => rfl⟩
  · exact ⟨fun heq => absurd heq.symm (hnew y hy'), fun heq => absurd heq.symm (hnew' y hy')⟩
  · exact ⟨fun heq => absurd heq (hnew x hx'), fun heq => absurd heq (hnew' x hx')⟩
  · exact h x hx' y hy'

end Together

/-! ## Paired books and shelves -/

/-- How the pools `p` and `q` of two devices correspond: the leases of the shares that are out
besides `kept` and `kept'`, and what lies on the shelves. -/
structure Paired (p q : PoolId) (kept kept' : List Holding)
    (names : List (SurfaceId × SurfaceId)) (shares : List (Holding × Holding)) (b b' : Leases)
    (shelf shelf' : List SurfaceId) : Prop where
  lease_iff : ∀ x ∈ shares, ∀ y ∈ shares, x.1.lease = y.1.lease ↔ x.2.lease = y.2.lease
  apart : ∀ x ∈ shares, ∀ y ∈ kept, y.lease ≠ x.1.lease
  apart' : ∀ x ∈ shares, ∀ y ∈ kept', y.lease ≠ x.2.lease
  pool_eq : ∀ x ∈ shares, ∀ l ∈ b.live, l.key = x.1.lease → l.pool = p
  pool_eq' : ∀ x ∈ shares, ∀ l ∈ b'.live, l.key = x.2.lease → l.pool = q
  named : ∀ x ∈ shares, (x.1.surface, x.2.surface) ∈ names
  nodup : (names.map (·.1)).Nodup
  nodup' : (names.map (·.2)).Nodup
  shelved : ∃ back old, shelf = back.map (·.1) ++ old ∧ shelf' = back.map (·.2) ∧ back ⊆ names ∧
    ∀ a ∈ old, a ∉ names.map (·.1)

namespace Paired

variable {p q : PoolId} {kept kept' : List Holding} {names : List (SurfaceId × SurfaceId)}
variable {shares : List (Holding × Holding)} {share : Holding × Holding} {b b' : Leases}
variable {shelf shelf' : List SurfaceId} {a a' : SurfaceId}

/-- What holds of more shares holds of fewer. -/
theorem mono (h : Paired p q kept kept' names shares b b' shelf shelf')
    {fewer : List (Holding × Holding)} (hfewer : ∀ x ∈ fewer, x ∈ shares) :
    Paired p q kept kept' names fewer b b' shelf shelf' :=
  { h with
    lease_iff := fun x hx y hy => h.lease_iff x (hfewer x hx) y (hfewer y hy)
    apart := fun x hx => h.apart x (hfewer x hx)
    apart' := fun x hx => h.apart' x (hfewer x hx)
    pool_eq := fun x hx => h.pool_eq x (hfewer x hx)
    pool_eq' := fun x hx => h.pool_eq' x (hfewer x hx)
    named := fun x hx => h.named x (hfewer x hx) }

/-- The number of holders of a lease does not matter. -/
theorem adjust (h : Paired p q kept kept' names shares b b' shelf shelf') (key key' : LeaseId)
    (change change' : Nat → Nat) : Paired p q kept kept' names shares (b.adjust key change)
      (b'.adjust key' change') shelf shelf' :=
  { h with
    pool_eq := by
      intro x hx l hl hkey
      obtain ⟨before, hbefore, hsame, hpool⟩ := mem_live_adjust hl
      rw [hpool]
      exact h.pool_eq x hx before hbefore (hsame ▸ hkey)
    pool_eq' := by
      intro x hx l hl hkey
      obtain ⟨before, hbefore, hsame, hpool⟩ := mem_live_adjust hl
      rw [hpool]
      exact h.pool_eq' x hx before hbefore (hsame ▸ hkey) }

theorem retain (h : Paired p q kept kept' names shares b b' shelf shelf')
    (hshare : share ∈ shares) :
    Paired p q kept kept' names (share :: shares) (b.retain share.1.lease)
      (b'.retain share.2.lease) shelf shelf' := by
  rw [retain_eq, retain_eq]
  refine (h.mono ?_).adjust _ _ _ _
  intro x hx
  rcases List.mem_cons.1 hx with rfl | hx
  · exact hshare
  · exact hx

/-- A lease ends on both sides or on neither. -/
theorem last_iff (h : Paired p q kept kept' names (share :: shares) b b' shelf shelf') :
    (∀ y ∈ shares.map (·.1) ++ kept, y.lease ≠ share.1.lease) ↔
      ∀ y ∈ shares.map (·.2) ++ kept', y.lease ≠ share.2.lease := by
  have hself : share ∈ share :: shares := List.mem_cons_self
  have hlast := Together.last_iff h.lease_iff
  simp only [List.forall_mem_append, List.forall_mem_map]
  exact ⟨fun hleft => ⟨hlast.1 hleft.1, h.apart' share hself⟩,
    fun hright => ⟨hlast.2 hright.1, h.apart share hself⟩⟩

/-- Giving a share back on both sides: the lease ends on both sides and the surfaces go on the
shelves, or it goes on with a holder less. -/
theorem release (h : Paired p q kept kept' names (share :: shares) b b' shelf shelf')
    (hleft : b.Accounts (share.1 :: (shares.map (·.1) ++ kept)))
    (hright : b'.Accounts (share.2 :: (shares.map (·.2) ++ kept'))) :
    (∃ l ∈ b.live, ∃ l' ∈ b'.live, l.pool = p ∧ l'.pool = q ∧
      l.key = share.1.lease ∧ l'.key = share.2.lease ∧
      b.release? share.1.lease = (some l, b.without share.1.lease) ∧
      b'.release? share.2.lease = (some l', b'.without share.2.lease) ∧
      Paired p q kept kept' names shares (b.without share.1.lease) (b'.without share.2.lease)
        (l.surface :: shelf) (l'.surface :: shelf')) ∨
    (b.release? share.1.lease = (none, b.adjust share.1.lease (· - 1)) ∧
      b'.release? share.2.lease = (none, b'.adjust share.2.lease (· - 1)) ∧
      Paired p q kept kept' names shares (b.adjust share.1.lease (· - 1))
        (b'.adjust share.2.lease (· - 1)) shelf shelf') := by
  have hself : share ∈ share :: shares := List.mem_cons_self
  have hrest := h.mono fun x hx => List.mem_cons_of_mem share hx
  obtain ⟨l, hl, hkey, hsurface, hcases⟩ := hleft.release_eq
  obtain ⟨l', hl', hkey', hsurface', hcases'⟩ := hright.release_eq
  rcases hcases with ⟨hlast, heq⟩ | ⟨⟨y, hy, hlease⟩, heq⟩ <;>
    rcases hcases' with ⟨hlast', heq'⟩ | ⟨⟨y', hy', hlease'⟩, heq'⟩
  · refine .inl ⟨l, hl, l', hl', h.pool_eq share hself l hl hkey,
      h.pool_eq' share hself l' hl' hkey', hkey, hkey', heq, heq', { hrest with
        pool_eq := fun x hx l hl => hrest.pool_eq x hx l (List.mem_of_mem_filter hl)
        pool_eq' := fun x hx l hl => hrest.pool_eq' x hx l (List.mem_of_mem_filter hl)
        shelved := ?_ }⟩
    obtain ⟨back, old, hshelf, hshelf', hback, hold⟩ := h.shelved
    refine ⟨(share.1.surface, share.2.surface) :: back, old, ?_, ?_, ?_, hold⟩
    · rw [hsurface, hshelf]
      rfl
    · rw [hsurface', hshelf']
      rfl
    · exact List.cons_subset.2 ⟨h.named share hself, hback⟩
  · exact absurd hlease' (h.last_iff.1 hlast y' hy')
  · exact absurd hlease (h.last_iff.2 hlast' y hy)
  · exact .inr ⟨heq, heq', hrest.adjust _ _ _ _⟩

/-- A surface is lent on both sides. -/
theorem grant (h : Paired p q kept kept' names shares b b' shelf shelf')
    (hleft : b.Accounts (shares.map (·.1) ++ kept))
    (hright : b'.Accounts (shares.map (·.2) ++ kept'))
    {later : List (SurfaceId × SurfaceId)} (hnames : names ⊆ later) (hnamed : (a, a') ∈ later)
    (hnodup : (later.map (·.1)).Nodup) (hnodup' : (later.map (·.2)).Nodup)
    {rest rest' : List SurfaceId}
    (hshelved : ∃ back old, rest = back.map (·.1) ++ old ∧ rest' = back.map (·.2) ∧
      back ⊆ later ∧ ∀ a ∈ old, a ∉ later.map (·.1)) :
    Paired p q kept kept' later ((⟨b.nextKey, a⟩, ⟨b'.nextKey, a'⟩) :: shares) (b.grant p a).2
      (b'.grant q a').2 rest rest' := by
  -- the keys of the new leases are not in use
  have hnew : ∀ y ∈ shares.map (·.1) ++ kept, y.lease ≠ b.nextKey :=
    fun y hy => Nat.ne_of_lt (hleft.lease_lt hy)
  have hnew' : ∀ y ∈ shares.map (·.2) ++ kept', y.lease ≠ b'.nextKey :=
    fun y hy => Nat.ne_of_lt (hright.lease_lt hy)
  have hshare : ∀ x ∈ shares, x.1.lease ≠ b.nextKey := fun x hx =>
    hnew x.1 (List.mem_append_left _ (List.mem_map_of_mem hx))
  have hshare' : ∀ x ∈ shares, x.2.lease ≠ b'.nextKey := fun x hx =>
    hnew' x.2 (List.mem_append_left _ (List.mem_map_of_mem hx))
  refine ⟨Together.cons h.lease_iff hshare hshare', ?_, ?_, ?_, ?_, ?_, hnodup, hnodup', hshelved⟩
  · intro x hx y hy
    rcases List.mem_cons.1 hx with rfl | hx
    · exact hnew y (List.mem_append_right _ hy)
    · exact h.apart x hx y hy
  · intro x hx y hy
    rcases List.mem_cons.1 hx with rfl | hx
    · exact hnew' y (List.mem_append_right _ hy)
    · exact h.apart' x hx y hy
  · intro x hx l hl hkey
    rcases mem_live_grant.1 hl with rfl | hl
    · rfl
    · rcases List.mem_cons.1 hx with rfl | hx
      · exact absurd hkey (Nat.ne_of_lt (hleft.key_lt l hl))
      · exact h.pool_eq x hx l hl hkey
  · intro x hx l hl hkey
    rcases mem_live_grant.1 hl with rfl | hl
    · rfl
    · rcases List.mem_cons.1 hx with rfl | hx
      · exact absurd hkey (Nat.ne_of_lt (hright.key_lt l hl))
      · exact h.pool_eq' x hx l hl hkey
  · intro x hx
    rcases List.mem_cons.1 hx with rfl | hx
    · exact hnamed
    · exact hnames (h.named x hx)

/-- A surface that has come back is on top of both shelves, and has the counterpart that it had. -/
theorem lendKnown (h : Paired p q kept kept' names shares b b' shelf (a' :: shelf'))
    (hleft : b.Accounts (shares.map (·.1) ++ kept))
    (hright : b'.Accounts (shares.map (·.2) ++ kept')) :
    ∃ a rest, shelf = a :: rest ∧ (a, a') ∈ names ∧
      Paired p q kept kept' names ((⟨b.nextKey, a⟩, ⟨b'.nextKey, a'⟩) :: shares) (b.grant p a).2
        (b'.grant q a').2 rest shelf' := by
  obtain ⟨back, old, hshelf, hshelf', hback, hold⟩ := h.shelved
  cases back with
  | nil => cases hshelf'
  | cons first back =>
    cases hshelf'
    have hnamed : first ∈ names := hback List.mem_cons_self
    exact ⟨first.1, back.map (·.1) ++ old, hshelf, hnamed, h.grant hleft hright
      (List.Subset.refl _) hnamed h.nodup h.nodup'
      ⟨back, old, rfl, rfl, fun x hx => hback (List.mem_cons_of_mem _ hx), hold⟩⟩

/-- When all surfaces that had a counterpart are out, a surface that is taken gets a new one. -/
theorem lendNew (h : Paired p q kept kept' names shares b b' shelf [])
    (hleft : b.Accounts (shares.map (·.1) ++ kept))
    (hright : b'.Accounts (shares.map (·.2) ++ kept')) {rest : List SurfaceId}
    (ha : a ∉ names.map (·.1)) (ha' : a' ∉ names.map (·.2))
    (hrest : ∀ x ∈ rest, x ∈ shelf ∧ x ≠ a) :
    Paired p q kept kept' ((a, a') :: names) ((⟨b.nextKey, a⟩, ⟨b'.nextKey, a'⟩) :: shares)
      (b.grant p a).2 (b'.grant q a').2 rest [] := by
  obtain ⟨back, old, hshelf, hshelf', -, hold⟩ := h.shelved
  have hnone : back = [] := List.map_eq_nil_iff.1 hshelf'.symm
  subst hnone
  refine h.grant hleft hright (List.subset_cons_self _ _) List.mem_cons_self
    (List.nodup_cons.2 ⟨ha, h.nodup⟩) (List.nodup_cons.2 ⟨ha', h.nodup'⟩)
    ⟨[], rest, rfl, rfl, List.nil_subset _, ?_⟩
  intro x hx hmem
  obtain ⟨hshelved, hne⟩ := hrest x hx
  rw [hshelf] at hshelved
  rcases List.mem_cons.1 hmem with rfl | hmem
  · exact hne rfl
  · exact hold x hshelved hmem

/-- What is left on the left shelf when the right one is empty has no counterpart. -/
theorem unnamed (h : Paired p q kept kept' names shares b b' shelf []) {x : SurfaceId}
    (hx : x ∈ shelf) : x ∉ names.map (·.1) := by
  obtain ⟨back, old, hshelf, hshelf', -, hold⟩ := h.shelved
  have hnone : back = [] := List.map_eq_nil_iff.1 hshelf'.symm
  subst hnone
  rw [hshelf] at hx
  exact hold x hx

end Paired

end Deinterlace.Leases
