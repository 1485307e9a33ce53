import Switchboard.Proofs.Alike
import Switchboard.Proofs.Lifecycle
import Switchboard.Proofs.Spares

/-!
# Hubs that differ in one connection

`Hub.Alike c ρ h h'` says that two hubs hold the same of every connection but `c`: the connections
besides `c` are alike by the pairing `ρ` of tickets, and the same happened to them. Whether `c` is
there at all is left open, and so are the clocks, counters and logs.

What is done for `c` only leaves a hub alike another (`Hub.Alike.aside`), and alike things that are
made of another connection in both hubs leave them alike (`Hub.Alike.gets`).

## Sends

A send to several connections may have a place at `c` in one hub and none in the other, so that its
places are numbered differently. `Braid c r` says that two lists of places are the same besides
those at `c`. `Calls c ρ shared shared'` says so of all the sends that both hubs were asked for: the
`k`-th of `shared` and the `k`-th of `shared'` are numbers of the same send. A send that is not
shared is one for `c`.
-/

namespace Switchboard

/-- Two pairings one to one that have nothing in common make one. -/
theorem biUnique_or {α β : Type} {r s : α → β → Prop} (hr : Relator.BiUnique r)
    (hs : Relator.BiUnique s) (hleft : ∀ a b b', r a b → ¬ s a b')
    (hright : ∀ a a' b, r a b → ¬ s a' b) : Relator.BiUnique fun a b => r a b ∨ s a b := by
  constructor
  · rintro a a' b (h | h) (h' | h')
    · exact hr.1 h h'
    · exact absurd h' (hright _ _ _ h)
    · exact absurd h (hright _ _ _ h')
    · exact hs.1 h h'
  · rintro a b b' (h | h) (h' | h')
    · exact hr.2 h h'
    · exact absurd h' (hleft _ _ _ h)
    · exact absurd h (hleft _ _ _ h')
    · exact hs.2 h h'

/-! ## Places -/

/-- Two lists of places are the same besides those at `c`, but for how places are numbered. -/
inductive Braid (c : String) (r : Nat → Nat → Prop) :
    List (String × Nat) → List (String × Nat) → Prop
  | nil : Braid c r [] []
  | left (p : Nat) {xs ys : List (String × Nat)} (rest : Braid c r xs ys) :
      Braid c r ((c, p) :: xs) ys
  | right (p : Nat) {xs ys : List (String × Nat)} (rest : Braid c r xs ys) :
      Braid c r xs ((c, p) :: ys)
  | both {d : String} {p p' : Nat} {xs ys : List (String × Nat)} (ne : d ≠ c) (paired : r p p')
      (rest : Braid c r xs ys) : Braid c r ((d, p) :: xs) ((d, p') :: ys)

/-- What the sends at the places besides `c` are to notice first. -/
def roomsBesides (c : String) (roomFirst : Nat → Bool) (places : List (String × Nat)) : List Bool :=
  (places.filter fun x => x.1 ≠ c).map fun x => roomFirst x.2

namespace Braid

variable {c : String} {r r' : Nat → Nat → Prop} {xs ys : List (String × Nat)}

theorem symm (braid : Braid c r xs ys) : Braid c (flip r) ys xs := by
  induction braid with
  | nil => exact .nil
  | left p _ ih => exact .right p ih
  | right p _ ih => exact .left p ih
  | both ne paired _ ih => exact .both ne paired ih

theorem mono (hr : ∀ p p', r p p' → r' p p') (braid : Braid c r xs ys) : Braid c r' xs ys := by
  induction braid with
  | nil => exact .nil
  | left p _ ih => exact .left p ih
  | right p _ ih => exact .right p ih
  | both ne paired _ ih => exact .both ne (hr _ _ paired) ih

/-- Places at `c` only count for nothing. -/
theorem drop_left (braid : Braid c r xs ys) (hxs : ∀ x ∈ xs, x.1 = c) : Braid c r [] ys := by
  induction braid with
  | nil => exact .nil
  | left p _ ih => exact ih fun x hx => hxs x (List.mem_cons_of_mem _ hx)
  | right p _ ih => exact .right p (ih hxs)
  | both ne paired _ ih => exact absurd (hxs _ List.mem_cons_self) ne

theorem of_own (own : ∀ x ∈ xs, x.1 = c) : Braid c r xs [] := by
  induction xs with
  | nil => exact .nil
  | cons x xs ih =>
    obtain ⟨d, p⟩ := x
    obtain rfl : d = c := own (d, p) List.mem_cons_self
    exact .left p (ih fun x hx => own x (List.mem_cons_of_mem _ hx))

theorem own (braid : Braid c r xs []) : ∀ x ∈ xs, x.1 = c := by
  generalize hys : [] = ys at braid
  induction braid with
  | nil => exact fun x hx => absurd hx List.not_mem_nil
  | left p _ ih =>
    intro x hx
    rcases List.mem_cons.mp hx with rfl | hx
    · rfl
    · exact ih hys x hx
  | right => cases hys
  | both => cases hys

/-- Sends that notice the same first do so place by place. -/
theorem with_rooms {roomFirst roomFirst' : Nat → Bool} (braid : Braid c r xs ys)
    (hrooms : roomsBesides c roomFirst xs = roomsBesides c roomFirst' ys) :
    Braid c (fun p p' => r p p' ∧ roomFirst p = roomFirst' p') xs ys := by
  have hown : ∀ roomFirst p zs, roomsBesides c roomFirst ((c, p) :: zs) =
      roomsBesides c roomFirst zs := by
    intro roomFirst p zs
    simp [roomsBesides]
  induction braid with
  | nil => exact .nil
  | left p _ ih => exact .left p (ih (by rwa [hown] at hrooms))
  | right p _ ih => exact .right p (ih (by rwa [hown] at hrooms))
  | @both d p p' xs ys ne paired _ ih =>
    have hother : ∀ roomFirst p zs, roomsBesides c roomFirst ((d, p) :: zs) =
        roomFirst p :: roomsBesides c roomFirst zs := by
      intro roomFirst p zs
      simp [roomsBesides, ne]
    rw [hother, hother, List.cons.injEq] at hrooms
    exact .both ne ⟨paired, hrooms.1⟩ (ih hrooms.2)

theorem left_if (b : Bool) (p : Nat) (braid : Braid c r xs ys) :
    Braid c r (if b then (c, p) :: xs else xs) ys := by
  cases b with
  | true => exact .left p braid
  | false => exact braid

theorem right_if (b : Bool) (p : Nat) (braid : Braid c r xs ys) :
    Braid c r xs (if b then (c, p) :: ys else ys) := by
  cases b with
  | true => exact .right p braid
  | false => exact braid

theorem both_if (b : Bool) {d : String} {p p' : Nat} (ne : d ≠ c) (paired : r p p')
    (braid : Braid c r xs ys) :
    Braid c r (if b then (d, p) :: xs else xs) (if b then (d, p') :: ys else ys) := by
  cases b with
  | true => exact .both ne paired braid
  | false => exact braid

/-- Two lists of connections that are the same besides `c` give places that are: each place of the
one list besides `c` goes with one of the other. -/
theorem exists_of_targets {ids ids' : List String}
    (h : (ids.filter fun d => d ≠ c) = ids'.filter fun d => d ≠ c) (i j : Nat) :
    ∃ r, Relator.BiUnique r ∧ (∀ p p', r p p' → i ≤ p ∧ j ≤ p') ∧
      Braid c r (ids.zipIdx i) (ids'.zipIdx j) := by
  induction ids generalizing ids' i j with
  | nil =>
    -- what is left of the other list is `c` only
    have hown : ∀ d ∈ ids', d = c := by simpa using h.symm
    refine ⟨fun _ _ => False, ⟨fun _ _ _ hf => hf.elim, fun _ _ _ hf => hf.elim⟩,
      fun _ _ hf => hf.elim, ?_⟩
    clear h
    induction ids' generalizing j with
    | nil => exact .nil
    | cons d rest ih =>
      obtain rfl := hown d List.mem_cons_self
      exact .right j (ih (j + 1) fun x hx => hown x (List.mem_cons_of_mem _ hx))
  | cons d ids ih =>
    by_cases hd : d = c
    · subst hd
      obtain ⟨r, hr, hle, braid⟩ := ih (by simpa using h) (i + 1) j
      refine ⟨r, hr, fun p p' hp => ?_, .left i braid⟩
      have := hle p p' hp
      omega
    · induction ids' generalizing j with
      | nil => simp [hd] at h
      | cons d' ids' ih' =>
        by_cases hd' : d' = c
        · subst hd'
          obtain ⟨r, hr, hle, braid⟩ := ih' (by simpa using h) (j + 1)
          refine ⟨r, hr, fun p p' hp => ?_, .right j braid⟩
          have := hle p p' hp
          omega
        · obtain ⟨rfl, hrest⟩ : d = d' ∧
              (ids.filter fun d => d ≠ c) = ids'.filter fun d => d ≠ c := by
            simpa [hd, hd'] using h
          obtain ⟨r, hr, hle, braid⟩ := ih hrest (i + 1) (j + 1)
          -- the two first places go with each other, and the later ones as they did
          refine ⟨fun p p' => p = i ∧ p' = j ∨ r p p', biUnique_or ⟨?_, ?_⟩ hr ?_ ?_, ?_,
            .both hd (.inl ⟨rfl, rfl⟩) (braid.mono fun _ _ => .inr)⟩
          · rintro p q p' ⟨rfl, -⟩ ⟨rfl, -⟩
            rfl
          · rintro p p' q' ⟨-, rfl⟩ ⟨-, rfl⟩
            rfl
          · rintro p p' q' ⟨rfl, rfl⟩ hq
            have := hle _ _ hq
            omega
          · rintro p q p' ⟨rfl, rfl⟩ hq
            have := hle _ _ hq
            omega
          · rintro p p' (⟨rfl, rfl⟩ | hp)
            · exact ⟨Nat.le_refl _, Nat.le_refl _⟩
            · have := hle p p' hp
              omega

end Braid

/-! ## Sends -/

theorem getElem?_append_of_some {α : Type} {xs ys : List α} {n : Nat} {x : α}
    (hx : xs[n]? = some x) : (xs ++ ys)[n]? = some x := by
  rw [List.getElem?_append_left (List.getElem?_eq_some_iff.mp hx).1, hx]

theorem getElem?_concat_cases {α : Type} {xs : List α} {n : Nat} {x y : α}
    (hx : (xs ++ [y])[n]? = some x) : xs[n]? = some x ∨ n = xs.length ∧ x = y := by
  by_cases hn : n < xs.length
  · rw [List.getElem?_append_left hn] at hx
    exact .inl hx
  · have hlt := (List.getElem?_eq_some_iff.mp hx).1
    rw [List.length_append, List.length_singleton] at hlt
    obtain rfl : n = xs.length := by omega
    rw [List.getElem?_concat_length] at hx
    exact .inr ⟨rfl, (Option.some.inj hx).symm⟩

theorem getElem?_set_cases {α : Type} {xs : List α} {n m : Nat} {x y : α}
    (hy : (xs.set n x)[m]? = some y) : n = m ∧ x = y ∨ n ≠ m ∧ xs[m]? = some y := by
  by_cases hn : n = m
  · subst hn
    have hlt := (List.getElem?_eq_some_iff.mp hy).1
    rw [List.length_set] at hlt
    rw [List.getElem?_set_self hlt] at hy
    exact .inl ⟨rfl, Option.some.inj hy⟩
  · rw [List.getElem?_set_ne hn] at hy
    exact .inr ⟨hn, hy⟩

theorem set_eq_self {α : Type} {xs : List α} {n : Nat} {x : α} (hx : xs[n]? = some x) :
    xs.set n x = xs := by
  obtain ⟨hlt, rfl⟩ := List.getElem?_eq_some_iff.mp hx
  exact List.set_getElem_self hlt

/-- A send is asked for to the connection `id` alone. -/
def SendOrder.IsFor (id : String) : SendOrder → Prop
  | .toHandle d _ | .toConnection d _ => d = id
  | .toUser _ _ | .toAll _ => False

/-- A send has begun, and waits at some places or at none any more. -/
inductive Call.Begun (f : Frame) : List (String × Nat) → Call → Prop
  | waiting (places : List (String × Nat)) (r : Reply) : Begun f places (.waiting f places r)
  | finished (r : Reply) : Begun f [] (.finished r)
  | abandoned : Begun f [] .abandoned

/-- At which places a send waits is its own affair. -/
theorem Call.Begun.places_eq {x : Call} {f g : Frame} {places places' : List (String × Nat)}
    (begun : x.Begun f places) (begun' : x.Begun g places') : places' = places := by
  cases begun <;> cases begun' <;> rfl

/-- A send is one for the connection `c` alone. -/
inductive Call.IsOwn (c : String) : Call → Prop
  | requested {r : SendOrder} (own : r.IsFor c) : IsOwn c (.requested r)
  | begun {x : Call} {f : Frame} {places : List (String × Nat)} (begun : x.Begun f places)
      (own : ∀ y ∈ places, y.1 = c) : IsOwn c x

theorem Call.cases_begun (x : Call) :
    (∃ r, x = .requested r) ∨ ∃ f places, x.Begun f places := by
  cases x with
  | requested r => exact .inl ⟨r, rfl⟩
  | waiting f places r => exact .inr ⟨f, places, .waiting places r⟩
  | finished r => exact .inr ⟨default, [], .finished r⟩
  | abandoned => exact .inr ⟨default, [], .abandoned⟩

theorem Call.IsOwn.isFor {c : String} {r : SendOrder} (own : (Call.requested r).IsOwn c) :
    r.IsFor c := by
  cases own with
  | requested own => exact own
  | begun begun => cases begun

theorem Call.IsOwn.places {c : String} {x : Call} {f : Frame} {places : List (String × Nat)}
    (own : x.IsOwn c) (begun : x.Begun f places) : ∀ y ∈ places, y.1 = c := by
  cases own with
  | requested => cases begun
  | begun begun' own =>
    obtain rfl := begun'.places_eq begun
    exact own

/-- The sends with the numbers `n` and `n'` are the same besides what they have to do with `c`. -/
inductive Call.Alike (c : String) (ρ : Ticket → Ticket → Prop) (n n' : Nat) : Call → Call → Prop
  | requested {r : SendOrder} (shared : ¬ r.IsFor c) : Alike c ρ n n' (.requested r) (.requested r)
  | begun {x x' : Call} {f : Frame} {places places' : List (String × Nat)}
      (begun : x.Begun f places) (begun' : x'.Begun f places')
      (braid : Braid c (fun p p' => ρ ⟨n, p⟩ ⟨n', p'⟩) places places') : Alike c ρ n n' x x'

/-- The sends of two hubs are the same besides what they have to do with `c`. -/
structure Calls (c : String) (ρ : Ticket → Ticket → Prop) (shared shared' : List Nat)
    (xs xs' : List Call) : Prop where
  length_eq : shared'.length = shared.length
  paired : ∀ k n n' : Nat, shared[k]? = some n → shared'[k]? = some n' →
    ∃ x x', xs[n]? = some x ∧ xs'[n']? = some x' ∧ Call.Alike c ρ n n' x x'
  nodup : shared.Nodup
  nodup' : shared'.Nodup
  own : ∀ n x, xs[n]? = some x → n ∉ shared → x.IsOwn c
  own' : ∀ n x, xs'[n]? = some x → n ∉ shared' → x.IsOwn c
  /-- Only sends that have begun have paired tickets. -/
  begun : ∀ t t', ρ t t' → (∃ x f places, xs[t.call]? = some x ∧ x.Begun f places) ∧
    ∃ x f places, xs'[t'.call]? = some x ∧ x.Begun f places

theorem Call.Alike.symm {c : String} {ρ : Ticket → Ticket → Prop} {n n' : Nat} {x x' : Call}
    (alike : Call.Alike c ρ n n' x x') : Call.Alike c (flip ρ) n' n x' x := by
  cases alike with
  | requested shared => exact .requested shared
  | begun begun begun' braid => exact .begun begun' begun braid.symm

theorem Call.Alike.mono {c : String} {ρ ρ' : Ticket → Ticket → Prop} {n n' : Nat} {x x' : Call}
    (hρ : ∀ t t', ρ t t' → ρ' t t') (alike : Call.Alike c ρ n n' x x') :
    Call.Alike c ρ' n n' x x' := by
  cases alike with
  | requested shared => exact .requested shared
  | begun begun begun' braid => exact .begun begun begun' (braid.mono fun _ _ => hρ _ _)

namespace Calls

variable {c : String} {ρ ρ' : Ticket → Ticket → Prop} {shared shared' : List Nat}
  {xs xs' : List Call} {n n' k : Nat} {x x' : Call} {f : Frame}
  {places places' : List (String × Nat)}

theorem symm (calls : Calls c ρ shared shared' xs xs') :
    Calls c (flip ρ) shared' shared xs' xs where
  length_eq := calls.length_eq.symm
  paired k n' n hn' hn := by
    obtain ⟨x, x', hx, hx', alike⟩ := calls.paired k n n' hn hn'
    exact ⟨x', x, hx', hx, alike.symm⟩
  nodup := calls.nodup'
  nodup' := calls.nodup
  own := calls.own'
  own' := calls.own
  begun t t' ht := (calls.begun t' t ht).symm

/-- No sends. -/
theorem nil (c : String) : Calls c (fun _ _ => False) [] [] [] [] where
  length_eq := rfl
  paired k n n' hn := by simp at hn
  nodup := List.nodup_nil
  nodup' := List.nodup_nil
  own n x hx := by simp at hx
  own' n x hx := by simp at hx
  begun t t' ht := ht.elim

/-- A shared send was asked for in the other hub too. -/
theorem exists_paired (calls : Calls c ρ shared shared' xs xs') (hk : shared[k]? = some n) :
    ∃ n' x x', shared'[k]? = some n' ∧ xs[n]? = some x ∧ xs'[n']? = some x' ∧
      Call.Alike c ρ n n' x x' := by
  have hlt : k < shared'.length := by
    rw [calls.length_eq]
    exact (List.getElem?_eq_some_iff.mp hk).1
  have hk' := List.getElem?_eq_getElem hlt
  obtain ⟨x, x', hx, hx', alike⟩ := calls.paired k n _ hk hk'
  exact ⟨_, x, x', hk', hx, hx', alike⟩

theorem lt_of_mem (calls : Calls c ρ shared shared' xs xs') (hn : n ∈ shared) : n < xs.length := by
  obtain ⟨k, hk⟩ := List.mem_iff_getElem?.mp hn
  obtain ⟨_, x, _, -, hx, -⟩ := calls.exists_paired hk
  exact (List.getElem?_eq_some_iff.mp hx).1

/-- A send for `c` alone is asked for in one hub. -/
theorem askOwn (calls : Calls c ρ shared shared' xs xs') {r : SendOrder} (own : r.IsFor c) :
    Calls c ρ shared shared' (xs ++ [.requested r]) xs' where
  length_eq := calls.length_eq
  paired k n n' hn hn' := by
    obtain ⟨x, x', hx, hx', alike⟩ := calls.paired k n n' hn hn'
    exact ⟨x, x', getElem?_append_of_some hx, hx', alike⟩
  nodup := calls.nodup
  nodup' := calls.nodup'
  own n x hx hn := by
    rcases getElem?_concat_cases hx with hx | ⟨rfl, rfl⟩
    · exact calls.own n x hx hn
    · exact .requested own
  own' := calls.own'
  begun t t' ht := by
    obtain ⟨⟨x, f, places, hx, hbegun⟩, hright⟩ := calls.begun t t' ht
    exact ⟨⟨x, f, places, getElem?_append_of_some hx, hbegun⟩, hright⟩

theorem asksOwn (calls : Calls c ρ shared shared' xs xs') {rs : List SendOrder}
    (own : ∀ r ∈ rs, r.IsFor c) :
    Calls c ρ shared shared' (xs ++ rs.map .requested) xs' := by
  induction rs generalizing xs with
  | nil => simpa using calls
  | cons r rs ih =>
    have hfirst := calls.askOwn (own r List.mem_cons_self)
    have hrest := ih hfirst fun r hr => own r (List.mem_cons_of_mem _ hr)
    simpa using hrest

/-- The same send, which is not for `c` alone, is asked for in both hubs. -/
theorem ask (calls : Calls c ρ shared shared' xs xs') {r : SendOrder} (hr : ¬ r.IsFor c) :
    Calls c ρ (shared ++ [xs.length]) (shared' ++ [xs'.length]) (xs ++ [.requested r])
      (xs' ++ [.requested r]) where
  length_eq := by
    rw [List.length_append, List.length_append, calls.length_eq]
    rfl
  paired k n n' hn hn' := by
    rcases getElem?_concat_cases hn with hold | ⟨rfl, rfl⟩
    · rcases getElem?_concat_cases hn' with hold' | ⟨rfl, rfl⟩
      · obtain ⟨x, x', hx, hx', alike⟩ := calls.paired k n n' hold hold'
        exact ⟨x, x', getElem?_append_of_some hx, getElem?_append_of_some hx', alike⟩
      · have hlt := (List.getElem?_eq_some_iff.mp hold).1
        rw [calls.length_eq] at hlt
        exact absurd hlt (Nat.lt_irrefl _)
    · rcases getElem?_concat_cases hn' with hold' | ⟨-, rfl⟩
      · have hlt := (List.getElem?_eq_some_iff.mp hold').1
        rw [calls.length_eq] at hlt
        exact absurd hlt (Nat.lt_irrefl _)
      · exact ⟨_, _, List.getElem?_concat_length, List.getElem?_concat_length, .requested hr⟩
  nodup := by
    refine List.nodup_append.mpr ⟨calls.nodup, List.nodup_singleton _, fun n hn m hm => ?_⟩
    rw [List.mem_singleton.mp hm]
    exact Nat.ne_of_lt (calls.lt_of_mem hn)
  nodup' := by
    refine List.nodup_append.mpr ⟨calls.nodup', List.nodup_singleton _, fun n hn m hm => ?_⟩
    rw [List.mem_singleton.mp hm]
    exact Nat.ne_of_lt (calls.symm.lt_of_mem hn)
  own n x hx hn := by
    rcases getElem?_concat_cases hx with hold | ⟨rfl, rfl⟩
    · exact calls.own n x hold fun h => hn (List.mem_append_left _ h)
    · exact absurd (List.mem_append_right _ (List.mem_singleton.mpr rfl)) hn
  own' n x hx hn := by
    rcases getElem?_concat_cases hx with hold | ⟨rfl, rfl⟩
    · exact calls.own' n x hold fun h => hn (List.mem_append_left _ h)
    · exact absurd (List.mem_append_right _ (List.mem_singleton.mpr rfl)) hn
  begun t t' ht := by
    obtain ⟨⟨x, f, places, hx, hbegun⟩, x', f', places', hx', hbegun'⟩ := calls.begun t t' ht
    exact ⟨⟨x, f, places, getElem?_append_of_some hx, hbegun⟩,
      x', f', places', getElem?_append_of_some hx', hbegun'⟩

/-- The same sends, none of them for `c` alone, are asked for in both hubs. -/
theorem asks (calls : Calls c ρ shared shared' xs xs') {rs : List SendOrder}
    (hrs : ∀ r ∈ rs, ¬ r.IsFor c) :
    Calls c ρ (shared ++ List.range' xs.length rs.length)
      (shared' ++ List.range' xs'.length rs.length) (xs ++ rs.map .requested)
      (xs' ++ rs.map .requested) := by
  induction rs generalizing shared shared' xs xs' with
  | nil => simpa using calls
  | cons r rs ih =>
    have hfirst := calls.ask (hrs r List.mem_cons_self)
    have hrest := ih hfirst fun r hr => hrs r (List.mem_cons_of_mem _ hr)
    simpa [List.range'_succ] using hrest

/-- A send that has begun is not undone when one gets on. -/
theorem begun_set {m : Nat} (hx : x.Begun f places)
    (h : ∃ y g ys, xs[m]? = some y ∧ Call.Begun g ys y) :
    ∃ y g ys, (xs.set n x)[m]? = some y ∧ Call.Begun g ys y := by
  obtain ⟨y, g, ys, hy, hbegun⟩ := h
  by_cases hn : n = m
  · subst hn
    exact ⟨x, f, places, List.getElem?_set_self (List.getElem?_eq_some_iff.mp hy).1, hx⟩
  · exact ⟨y, g, ys, by rwa [List.getElem?_set_ne hn], hbegun⟩

/-- A send for `c` alone gets on in one hub. -/
theorem setOwn (calls : Calls c ρ shared shared' xs xs') (hn : n ∉ shared)
    (hx : x.Begun f places) (own : ∀ y ∈ places, y.1 = c) :
    Calls c ρ shared shared' (xs.set n x) xs' where
  length_eq := calls.length_eq
  paired k m m' hm hm' := by
    obtain ⟨y, y', hy, hy', alike⟩ := calls.paired k m m' hm hm'
    have hne : n ≠ m := fun he => hn (he ▸ List.mem_of_getElem? hm)
    exact ⟨y, y', by rwa [List.getElem?_set_ne hne], hy', alike⟩
  nodup := calls.nodup
  nodup' := calls.nodup'
  own m y hy hm := by
    rcases getElem?_set_cases hy with ⟨rfl, rfl⟩ | ⟨-, hy⟩
    · exact .begun hx own
    · exact calls.own m y hy hm
  own' := calls.own'
  begun t t' ht := by
    obtain ⟨hleft, hright⟩ := calls.begun t t' ht
    exact ⟨begun_set hx hleft, hright⟩

/-- The same send gets on in both hubs, and some of its tickets may become paired. -/
theorem set (calls : Calls c ρ shared shared' xs xs') (hk : shared[k]? = some n)
    (hk' : shared'[k]? = some n') (hρ : ∀ t t', ρ t t' → ρ' t t')
    (hnew : ∀ t t', ρ' t t' → ρ t t' ∨ t.call = n ∧ t'.call = n') (hx : x.Begun f places)
    (hx' : x'.Begun f places') (braid : Braid c (fun p p' => ρ' ⟨n, p⟩ ⟨n', p'⟩) places places') :
    Calls c ρ' shared shared' (xs.set n x) (xs'.set n' x') where
  length_eq := calls.length_eq
  paired j m m' hm hm' := by
    obtain ⟨y, y', hy, hy', alike⟩ := calls.paired j m m' hm hm'
    have hlt := (List.getElem?_eq_some_iff.mp hk).1
    have hlt' := (List.getElem?_eq_some_iff.mp hk').1
    by_cases hj : k = j
    · subst hj
      obtain rfl := Option.some.inj (hk.symm.trans hm)
      obtain rfl := Option.some.inj (hk'.symm.trans hm')
      exact ⟨x, x', List.getElem?_set_self (List.getElem?_eq_some_iff.mp hy).1,
        List.getElem?_set_self (List.getElem?_eq_some_iff.mp hy').1, .begun hx hx' braid⟩
    · -- different sends have different numbers in either hub
      have hne : n ≠ m := fun he =>
        hj ((List.getElem?_inj hlt calls.nodup).mp (hk.trans (he ▸ hm.symm)))
      have hne' : n' ≠ m' := fun he =>
        hj ((List.getElem?_inj hlt' calls.nodup').mp (hk'.trans (he ▸ hm'.symm)))
      exact ⟨y, y', by rwa [List.getElem?_set_ne hne], by rwa [List.getElem?_set_ne hne'],
        alike.mono hρ⟩
  nodup := calls.nodup
  nodup' := calls.nodup'
  own m y hy hm := by
    rcases getElem?_set_cases hy with ⟨rfl, -⟩ | ⟨-, hy⟩
    · exact absurd (List.mem_of_getElem? hk) hm
    · exact calls.own m y hy hm
  own' m y hy hm := by
    rcases getElem?_set_cases hy with ⟨rfl, -⟩ | ⟨-, hy⟩
    · exact absurd (List.mem_of_getElem? hk') hm
    · exact calls.own' m y hy hm
  begun t t' ht := by
    rcases hnew t t' ht with hold | ⟨rfl, rfl⟩
    · obtain ⟨hleft, hright⟩ := calls.begun t t' hold
      exact ⟨begun_set hx hleft, begun_set hx' hright⟩
    · obtain ⟨y, y', hy, hy', -⟩ := calls.paired k _ _ hk hk'
      exact ⟨⟨x, f, places, List.getElem?_set_self (List.getElem?_eq_some_iff.mp hy).1, hx⟩,
        x', f, places', List.getElem?_set_self (List.getElem?_eq_some_iff.mp hy').1, hx'⟩

/-- A send that has begun gets on in one hub. The places at which it still waits go with those in
the other hub, or with none if it is for `c` alone. -/
theorem proceed (calls : Calls c ρ shared shared' xs xs') (hx : xs[n]? = some x)
    (hbegun : x.Begun f places) :
    ∃ f r ys, x.Begun f places ∧ Braid c r places ys ∧
      ∀ y left, y.Begun f left → Braid c r left ys → Calls c ρ shared shared' (xs.set n y) xs' := by
  by_cases hn : n ∈ shared
  · obtain ⟨k, hk⟩ := List.mem_iff_getElem?.mp hn
    obtain ⟨n', y, x', hk', hy, hx', alike⟩ := calls.exists_paired hk
    obtain rfl := Option.some.inj (hx.symm.trans hy)
    -- the other hub stands still: its send is set to what it is
    have hsame : xs'.set n' x' = xs' := set_eq_self hx'
    cases alike with
    | requested => cases hbegun
    | begun begun begun' braid =>
      obtain rfl := begun.places_eq hbegun
      refine ⟨_, _, _, begun, braid, fun y left hy hleft => ?_⟩
      rw [← hsame]
      exact calls.set hk hk' (fun _ _ => id) (fun _ _ => .inl) hy begun' hleft
  · have hown := calls.own n x hx hn
    cases hown with
    | requested => cases hbegun
    | begun begun own =>
      obtain rfl := begun.places_eq hbegun
      exact ⟨_, fun _ _ => False, [], begun, .of_own own, fun y left hy hleft =>
        calls.setOwn hn hy hleft.own⟩

/-- No ticket of a send that has not begun is paired. -/
theorem call_ne (calls : Calls c ρ shared shared' xs xs') {r r' : SendOrder}
    (hx : xs[n]? = some (.requested r)) (hx' : xs'[n']? = some (.requested r')) :
    ∀ t t', ρ t t' → t.call ≠ n ∧ t'.call ≠ n' := by
  intro t t' ht
  obtain ⟨⟨y, f, ys, hy, hbegun⟩, y', f', ys', hy', hbegun'⟩ := calls.begun t t' ht
  constructor
  · rintro rfl
    obtain rfl := Option.some.inj (hx.symm.trans hy)
    cases hbegun
  · rintro rfl
    obtain rfl := Option.some.inj (hx'.symm.trans hy')
    cases hbegun'

end Calls

/-- When a send begins in both hubs, its tickets are paired as its places are. -/
def withCall (ρ : Ticket → Ticket → Prop) (n n' : Nat) (r : Nat → Nat → Prop) :
    Ticket → Ticket → Prop :=
  fun t t' => ρ t t' ∨ t.call = n ∧ t'.call = n' ∧ r t.place t'.place

theorem biUnique_withCall {ρ : Ticket → Ticket → Prop} {r : Nat → Nat → Prop} {n n' : Nat}
    (hρ : Relator.BiUnique ρ) (hr : Relator.BiUnique r)
    (hne : ∀ t t', ρ t t' → t.call ≠ n ∧ t'.call ≠ n') : Relator.BiUnique (withCall ρ n n' r) := by
  refine biUnique_or hρ ⟨?_, ?_⟩ ?_ ?_
  · rintro ⟨n₁, p₁⟩ ⟨n₂, p₂⟩ t' ⟨rfl, -, h₁⟩ ⟨rfl, -, h₂⟩
    exact congrArg (Ticket.mk n₂) (hr.1 h₁ h₂)
  · rintro t ⟨n₁, p₁⟩ ⟨n₂, p₂⟩ ⟨-, rfl, h₁⟩ ⟨-, rfl, h₂⟩
    exact congrArg (Ticket.mk n₂) (hr.2 h₁ h₂)
  · rintro t t' t'' ht ⟨hcall, -⟩
    exact (hne _ _ ht).1 hcall
  · rintro t t' t'' ht ⟨-, hcall, -⟩
    exact (hne _ _ ht).2 hcall

/-! ## What happened -/

/-- A sender, whatever its ticket. -/
def Sender.plain : Sender → Sender
  | .offer => .offer
  | .call _ => .call ⟨0, 0⟩

/-- What happened, whatever the ticket of the sender. -/
def Happening.plain : Happening → Happening
  | .entered id f s => .entered id f s.plain
  | x => x

theorem Happening.id_plain (x : Happening) : x.plain.id = x.id := by
  cases x <;> rfl

/-- What happened to the connections besides `c`. -/
def others (c : String) (history : List Happening) : List Happening :=
  (history.map Happening.plain).filter fun x => x.id ≠ c

theorem others_append (c : String) (news history : List Happening) :
    others c (news ++ history) = others c news ++ others c history := by
  unfold others
  rw [List.map_append, List.filter_append]

theorem others_eq_nil {c : String} {news : List Happening} (hnews : ∀ x ∈ news, x.id = c) :
    others c news = [] := by
  unfold others
  rw [List.filter_eq_nil_iff]
  intro y hy
  obtain ⟨x, hx, rfl⟩ := List.mem_map.mp hy
  simp [Happening.id_plain, hnews x hx]

theorem others_congr {c : String} {news news' : List Happening}
    (h : news.map Happening.plain = news'.map Happening.plain) : others c news = others c news' :=
  congrArg (List.filter fun x : Happening => x.id ≠ c) h

/-! ## Hubs -/

namespace Hub

variable {τ : Type} {c d : String} {ρ ρ' : Ticket → Ticket → Prop} {h h' h₁ h₁' h₂ h₂' : Hub τ}

/-- Nothing changed for the connections besides `c`. -/
structure Aside (c : String) (h h₁ : Hub τ) : Prop where
  config_eq : h₁.config = h.config
  members_eq : ((h₁.connections.map Connection.member).filter fun m => m.id ≠ c) =
    (h.connections.map Connection.member).filter fun m => m.id ≠ c
  find?_eq : ∀ d, d ≠ c → h₁.find? d = h.find? d
  history_eq : others c h₁.history = others c h.history

/-- Two hubs hold the same of every connection but `c`. -/
structure Alike (c : String) (ρ : Ticket → Ticket → Prop) (h h' : Hub τ) : Prop where
  config_eq : h'.config = h.config
  members_eq : ((h'.connections.map Connection.member).filter fun m => m.id ≠ c) =
    (h.connections.map Connection.member).filter fun m => m.id ≠ c
  conn : ∀ d, d ≠ c → Option.Rel (Connection.Alike ρ) (h.find? d) (h'.find? d)
  history_eq : others c h'.history = others c h.history

theorem Aside.refl (c : String) (h : Hub τ) : Aside c h h := ⟨rfl, rfl, fun _ _ => rfl, rfl⟩

theorem Aside.trans (first : Aside c h h₁) (second : Aside c h₁ h₂) : Aside c h h₂ where
  config_eq := second.config_eq.trans first.config_eq
  members_eq := second.members_eq.trans first.members_eq
  find?_eq d hd := (second.find?_eq d hd).trans (first.find?_eq d hd)
  history_eq := second.history_eq.trans first.history_eq

theorem Within.aside (within : Within c h h₁) : Aside c h h₁ where
  config_eq := within.config_eq
  members_eq := congrArg _ within.members_eq
  find?_eq := within.find?_eq
  history_eq := by
    obtain ⟨news, heq, hnews⟩ := within.history
    rw [heq, others_append, others_eq_nil hnews, List.nil_append]

theorem Rouses.aside (rouses : h.Rouses h₁) (c : String) : Aside c h h₁ :=
  (rouses.within c).aside

theorem gets_enter {x : Connection τ} (hx : h.find? d = some x) (f : Frame) (s : Sender)
    (put : Outbox → Outbox) : Gets d { x with outbox := put x.outbox } [.entered d f s] h
      (h.enter d f s put) := by
  have hput := gets_update hx (fun x => { x with outbox := put x.outbox }) fun _ => rfl
  exact (hput.trans (gets_record hput.find?_self rfl)).rouse (rouses_wakeWriter _ d)

namespace Alike

theorem symm (alike : h.Alike c ρ h') : h'.Alike c (flip ρ) h where
  config_eq := alike.config_eq.symm
  members_eq := alike.members_eq.symm
  conn d hd := by
    have hconn := alike.conn d hd
    generalize h.find? d = x at hconn ⊢
    generalize h'.find? d = x' at hconn ⊢
    cases hconn with
    | none => exact .none
    | some hx => exact .some hx.symm
  history_eq := alike.history_eq.symm

theorem mono (hρ : ∀ t t', ρ t t' → ρ' t t') (alike : h.Alike c ρ h') : h.Alike c ρ' h' where
  config_eq := alike.config_eq
  members_eq := alike.members_eq
  conn d hd := by
    have hconn := alike.conn d hd
    generalize h.find? d = x at hconn ⊢
    generalize h'.find? d = x' at hconn ⊢
    cases hconn with
    | none => exact .none
    | some hx => exact .some (hx.mono hρ)
  history_eq := alike.history_eq

theorem aside (alike : h.Alike c ρ h') (aside : Aside c h h₁) : h₁.Alike c ρ h' where
  config_eq := alike.config_eq.trans aside.config_eq.symm
  members_eq := alike.members_eq.trans aside.members_eq.symm
  conn d hd := by
    rw [aside.find?_eq d hd]
    exact alike.conn d hd
  history_eq := alike.history_eq.trans aside.history_eq.symm

theorem aside_right (alike : h.Alike c ρ h') (aside : Aside c h' h₁') : h.Alike c ρ h₁' :=
  (alike.symm.aside aside).symm

/-- A connection is in both hubs or in neither. -/
theorem conn_cases (alike : h.Alike c ρ h') (hd : d ≠ c) :
    (h.find? d = none ∧ h'.find? d = none) ∨
    ∃ x x', h.find? d = some x ∧ h'.find? d = some x' ∧ x.Alike ρ x' := by
  have hconn := alike.conn d hd
  generalize h.find? d = x at hconn ⊢
  generalize h'.find? d = x' at hconn ⊢
  cases hconn with
  | none => exact .inl ⟨rfl, rfl⟩
  | some hx => exact .inr ⟨_, _, rfl, rfl, hx⟩

theorem isAlive_eq (alike : h.Alike c ρ h') (hd : d ≠ c) : h'.isAlive d = h.isAlive d := by
  unfold isAlive
  rcases alike.conn_cases hd with ⟨hx, hx'⟩ | ⟨x, x', hx, hx', hxx⟩
  · rw [hx, hx']
  · rw [hx, hx']
    obtain ⟨o, rfl, -⟩ := hxx
    rfl

/-- Alike things made of the connection `d` in both hubs. -/
theorem gets (alike : h.Alike c ρ h') (hd : d ≠ c) {x x' : Connection τ}
    {news news' : List Happening} (first : Gets d x news h h₁) (second : Gets d x' news' h' h₁')
    (hx : x.Alike ρ x') (hnews : news'.map Happening.plain = news.map Happening.plain) :
    h₁.Alike c ρ h₁' where
  config_eq := by rw [first.within.config_eq, second.within.config_eq, alike.config_eq]
  members_eq := by rw [first.within.members_eq, second.within.members_eq, alike.members_eq]
  conn e he := by
    by_cases hed : e = d
    · subst hed
      rw [first.find?_self, second.find?_self]
      exact .some hx
    · rw [first.within.find?_eq e hed, second.within.find?_eq e hed]
      exact alike.conn e he
  history_eq := by
    rw [first.history_eq, second.history_eq, others_append, others_append, alike.history_eq,
      others_congr hnews]

theorem enter (alike : h.Alike c ρ h') (hd : d ≠ c) {x x' : Connection τ}
    (hx : h.find? d = some x) (hx' : h'.find? d = some x') (hxx : x.Alike ρ x')
    {put put' : Outbox → Outbox} (hput : (put x.outbox).Alike ρ (put' x'.outbox)) {s s' : Sender}
    (hs : s'.plain = s.plain) (f : Frame) :
    (h.enter d f s put).Alike c ρ (h'.enter d f s' put') := by
  refine alike.gets hd (gets_enter hx f s put) (gets_enter hx' f s' put') (hxx.with_outbox hput) ?_
  simp [Happening.plain, hs]

theorem record (alike : h.Alike c ρ h') (x : Happening) :
    (h.record x).Alike c ρ (h'.record x) where
  config_eq := alike.config_eq
  members_eq := alike.members_eq
  conn := alike.conn
  history_eq := by
    change others c ([x] ++ h'.history) = others c ([x] ++ h.history)
    rw [others_append, others_append, alike.history_eq]

/-- In sound hubs, who is found under an id depends on who is alive only. -/
theorem lookup_eq (alike : h.Alike c ρ h') (sound : h.ledger.lives.Sound)
    (sound' : h'.ledger.lives.Sound) (hd : d ≠ c) :
    h'.registry.lookup d = h.registry.lookup d := by
  apply Option.ext
  intro m
  rw [lookup_eq_some_iff sound, lookup_eq_some_iff sound']
  rcases alike.conn_cases hd with ⟨hx, hx'⟩ | ⟨x, x', hx, hx', o, rfl, -⟩
  · simp [hx, hx']
  · simp [hx, hx', Connection.rebox]

theorem dropFrame (alike : h.Alike c ρ h') : h.dropFrame.Alike c ρ h'.dropFrame :=
  (alike.aside (within_dropFrame c h).aside).aside_right (within_dropFrame c h').aside

end Alike

end Hub

end Switchboard
