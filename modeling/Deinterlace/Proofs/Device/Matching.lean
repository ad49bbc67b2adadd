import Deinterlace.Proofs.Device.Pairing
import Mathlib.Algebra.GroupWithZero.Nat
import Mathlib.Data.List.Forall2

/-!
# Books that match

Two devices have pools in the same places, and callers that are in step hold frames from any of
them. `Leases.Matched` says what the books of leases have in common then: shares on the left and on
the right are of the same lease together, of pools in the same place, and of surfaces that stand for
each other. Sharing a lease, giving a share back and lending a surface on both sides keep the books
matched, and a lease ends on both sides or on neither (`Leases.Matched.release`).
-/
namespace Deinterlace

/-! ## Lists side by side -/

section Lists

/-- Every element beside itself. -/
def diagonal {α : Type} (l : List α) : List (α × α) := l.map fun a => (a, a)

@[simp] theorem map_fst_diagonal {α : Type} (l : List α) : (diagonal l).map (·.1) = l := by
  rw [diagonal, List.map_map]
  exact List.map_id l

@[simp] theorem map_snd_diagonal {α : Type} (l : List α) : (diagonal l).map (·.2) = l := by
  rw [diagonal, List.map_map]
  exact List.map_id l

theorem mem_diagonal {α : Type} {l : List α} {x : α × α} :
    x ∈ diagonal l ↔ ∃ a ∈ l, x = (a, a) := by
  simp only [diagonal, List.mem_map, eq_comm]

variable {α β : Type} {R : α → β → Prop} {l : List α} {l' : List β}

/-- Lists that are related have related elements at the same places. -/
theorem forall₂_getElem? (h : List.Forall₂ R l l') (i : Nat) :
    l[i]? = none ∧ l'[i]? = none ∨ ∃ a b, l[i]? = some a ∧ l'[i]? = some b ∧ R a b := by
  induction h generalizing i with
  | nil => exact .inl ⟨rfl, rfl⟩
  | @cons a b l l' hab _ ih =>
    cases i with
    | zero => exact .inr ⟨a, b, rfl, rfl, hab⟩
    | succ i => exact ih i

/-- They stay related when the elements at one place change, if those do. -/
theorem forall₂_modify (h : List.Forall₂ R l l') {i : Nat} {change : α → α} {change' : β → β}
    (hchange : ∀ a b, l[i]? = some a → l'[i]? = some b → R a b → R (change a) (change' b)) :
    List.Forall₂ R (l.modify i change) (l'.modify i change') := by
  induction h generalizing i with
  | nil => simp
  | @cons a b l l' hab hrest ih =>
    cases i with
    | zero => exact .cons (hchange a b rfl rfl hab) hrest
    | succ i => exact .cons hab (ih hchange)

/-- A change that does nothing at its place does nothing. -/
theorem modify_eq_of_fixed {i : Nat} {a : α} {change : α → α} (ha : l[i]? = some a)
    (hfixed : change a = a) : l.modify i change = l := by
  refine List.ext_getElem? fun j => ?_
  rw [List.getElem?_modify]
  by_cases hj : i = j
  · subst hj
    simp [ha, hfixed]
  · simp [hj]

/-- One more at one place is one more in all. -/
theorem sum_modify_succ {counts : List Nat} {i : Nat} (hi : i < counts.length) :
    (counts.modify i (· + 1)).sum = counts.sum + 1 := by
  induction counts generalizing i with
  | nil => cases hi
  | cons count rest ih =>
    cases i with
    | zero =>
      simp only [List.modify_zero_cons, List.sum_cons]
      omega
    | succ i =>
      have hrest := ih (Nat.lt_of_succ_lt_succ hi)
      simp only [List.modify_succ_cons, List.sum_cons, hrest]
      omega

end Lists

namespace Leases

/-! ## Matched books -/

/-- How the books of two devices with pools in the same places correspond, while the shares `shares`
are out. -/
structure Matched (names : List (SurfaceId × SurfaceId)) (shares : List (Holding × Holding))
    (b b' : Leases) : Prop where
  lease_iff : ∀ x ∈ shares, ∀ y ∈ shares, x.1.lease = y.1.lease ↔ x.2.lease = y.2.lease
  pool_eq : ∀ x ∈ shares, ∀ l ∈ b.live, ∀ l' ∈ b'.live, l.key = x.1.lease → l'.key = x.2.lease →
    l'.pool = l.pool
  named : ∀ x ∈ shares, (x.1.surface, x.2.surface) ∈ names
  nodup : (names.map (·.1)).Nodup
  nodup' : (names.map (·.2)).Nodup

namespace Matched

variable {names later : List (SurfaceId × SurfaceId)} {shares : List (Holding × Holding)}
variable {share : Holding × Holding} {b b' : Leases}

/-- A book matches one with the same leases. -/
theorem of_live_eq {held : List Holding} (h : b.Accounts held) (hlive : b'.live = b.live)
    (hnamed : ∀ x ∈ held, (x.surface, x.surface) ∈ names) (hnodup : (names.map (·.1)).Nodup)
    (hnodup' : (names.map (·.2)).Nodup) :
    Matched names (diagonal held) b' b := by
  refine ⟨?_, ?_, ?_, hnodup, hnodup'⟩
  · intro x hx y hy
    obtain ⟨share, -, rfl⟩ := mem_diagonal.1 hx
    obtain ⟨other, -, rfl⟩ := mem_diagonal.1 hy
    exact Iff.rfl
  · intro x hx l hl l' hl' hkey hkey'
    obtain ⟨share, -, rfl⟩ := mem_diagonal.1 hx
    rw [hlive] at hl
    rw [h.eq_of_key hl hl' (hkey.trans hkey'.symm)]
  · intro x hx
    obtain ⟨share, hshare, rfl⟩ := mem_diagonal.1 hx
    exact hnamed share hshare

/-- What holds of more shares holds of fewer. -/
theorem mono (h : Matched names shares b b') {fewer : List (Holding × Holding)}
    (hfewer : ∀ x ∈ fewer, x ∈ shares) : Matched names fewer b b' :=
  { h with
    lease_iff := fun x hx y hy => h.lease_iff x (hfewer x hx) y (hfewer y hy)
    pool_eq := fun x hx => h.pool_eq x (hfewer x hx)
    named := fun x hx => h.named x (hfewer x hx) }

/-- The number of holders of a lease does not matter. -/
theorem adjust (h : Matched names shares b b') (key key' : LeaseId) (change change' : Nat → Nat) :
    Matched names shares (b.adjust key change) (b'.adjust key' change') :=
  { h with
    pool_eq := by
      intro x hx l hl l' hl' hkey hkey'
      obtain ⟨before, hbefore, hsame, hpool⟩ := mem_live_adjust hl
      obtain ⟨before', hbefore', hsame', hpool'⟩ := mem_live_adjust hl'
      rw [hpool, hpool']
      exact h.pool_eq x hx before hbefore before' hbefore' (hsame ▸ hkey) (hsame' ▸ hkey') }

theorem without (h : Matched names shares b b') (key key' : LeaseId) :
    Matched names shares (b.without key) (b'.without key') :=
  { h with
    pool_eq := fun x hx l hl l' hl' =>
      h.pool_eq x hx l (List.mem_of_mem_filter hl) l' (List.mem_of_mem_filter hl') }

theorem retain (h : Matched names shares b b') (hshare : share ∈ shares) :
    Matched names (share :: shares) (b.retain share.1.lease) (b'.retain share.2.lease) := by
  rw [retain_eq, retain_eq]
  refine (h.mono ?_).adjust _ _ _ _
  intro x hx
  rcases List.mem_cons.1 hx with rfl | hx
  · exact hshare
  · exact hx

/-- A lease ends on both sides or on neither. -/
theorem last_iff (h : Matched names (share :: shares) b b') :
    (∀ y ∈ shares.map (·.1), y.lease ≠ share.1.lease) ↔
      ∀ y ∈ shares.map (·.2), y.lease ≠ share.2.lease := by
  simp only [List.forall_mem_map]
  exact Together.last_iff h.lease_iff

/-- Giving a share back on both sides: the leases end, and their surfaces stand for each other and
go to pools in the same place, or the leases go on with a holder less. -/
theorem release (h : Matched names (share :: shares) b b')
    (hleft : b.Accounts (share.1 :: shares.map (·.1)))
    (hright : b'.Accounts (share.2 :: shares.map (·.2))) :
    (∃ l l', l'.pool = l.pool ∧ (l.surface, l'.surface) ∈ names ∧ l.key = share.1.lease ∧
      l'.key = share.2.lease ∧ b.release? share.1.lease = (some l, b.without share.1.lease) ∧
      b'.release? share.2.lease = (some l', b'.without share.2.lease) ∧
      Matched names shares (b.without share.1.lease) (b'.without share.2.lease)) ∨
    (b.release? share.1.lease = (none, b.adjust share.1.lease (· - 1)) ∧
      b'.release? share.2.lease = (none, b'.adjust share.2.lease (· - 1)) ∧
      Matched names shares (b.adjust share.1.lease (· - 1)) (b'.adjust share.2.lease (· - 1))) := by
  have hself : share ∈ share :: shares := List.mem_cons_self
  have hrest := h.mono fun x hx => List.mem_cons_of_mem share hx
  obtain ⟨l, hl, hkey, hsurface, hcases⟩ := hleft.release_eq
  obtain ⟨l', hl', hkey', hsurface', hcases'⟩ := hright.release_eq
  rcases hcases with ⟨hlast, heq⟩ | ⟨⟨y, hy, hlease⟩, heq⟩ <;>
    rcases hcases' with ⟨hlast', heq'⟩ | ⟨⟨y', hy', hlease'⟩, heq'⟩
  · refine .inl ⟨l, l', h.pool_eq share hself l hl l' hl' hkey hkey', ?_, hkey, hkey', heq, heq',
      hrest.without _ _⟩
    rw [hsurface, hsurface']
    exact h.named share hself
  · exact absurd hlease' (h.last_iff.1 hlast y' hy')
  · exact absurd hlease (h.last_iff.2 hlast' y hy)
  · exact .inr ⟨heq, heq', hrest.adjust _ _ _ _⟩

/-- A surface is lent on both sides, from pools in the same place. -/
theorem grant (h : Matched names shares b b') (hleft : b.Accounts (shares.map (·.1)))
    (hright : b'.Accounts (shares.map (·.2))) (hnames : names ⊆ later) {a a' : SurfaceId}
    (hnamed : (a, a') ∈ later) (hnodup : (later.map (·.1)).Nodup)
    (hnodup' : (later.map (·.2)).Nodup) (i : PoolId) :
    Matched later ((⟨b.nextKey, a⟩, ⟨b'.nextKey, a'⟩) :: shares) (b.grant i a).2
      (b'.grant i a').2 := by
  -- the keys of the new leases are not in use
  have hnew : ∀ x ∈ shares, x.1.lease ≠ b.nextKey :=
    fun x hx => Nat.ne_of_lt (hleft.lease_lt (List.mem_map_of_mem hx))
  have hnew' : ∀ x ∈ shares, x.2.lease ≠ b'.nextKey :=
    fun x hx => Nat.ne_of_lt (hright.lease_lt (List.mem_map_of_mem hx))
  refine ⟨Together.cons h.lease_iff hnew hnew', ?_, ?_, hnodup, hnodup'⟩
  · intro x hx l hl l' hl' hkey hkey'
    rcases mem_live_grant.1 hl with rfl | hl <;> rcases mem_live_grant.1 hl' with rfl | hl' <;>
      rcases List.mem_cons.1 hx with rfl | hx
    · rfl
    · rfl
    · exact absurd hkey' (Nat.ne_of_lt (hright.key_lt l' hl'))
    · exact absurd hkey.symm (hnew x hx)
    · exact absurd hkey (Nat.ne_of_lt (hleft.key_lt l hl))
    · exact absurd hkey'.symm (hnew' x hx)
    · exact absurd hkey (Nat.ne_of_lt (hleft.key_lt l hl))
    · exact h.pool_eq x hx l hl l' hl' hkey hkey'
  · intro x hx
    rcases List.mem_cons.1 hx with rfl | hx
    · exact hnamed
    · exact hnames (h.named x hx)

end Matched

end Leases

end Deinterlace
