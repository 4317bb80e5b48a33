import FatImage.Proofs.Traffic
import FatImage.Proofs.Words

/-!
# Placing files cuts no number

Placing files is done once more here, with every number in the word that it
is kept in. Such a call has one more way to fail, that a word has no room.
It never comes to that: the call in words does what the call without words
does, down to the journal, and so do all the calls of a session.

Most of the numbers are places on the disk, and the volume was mounted, so
what they lie before is on the disk too and has a place below the bound. The
number of clusters is at most the length of the file. What is left are the
numbers of clusters in 16 bits, and for these there is one check: before
anything is written, the last cluster of a file must be one that can be
linked. That bounds the numbers of the chain, and it bounds the cursor behind
it, from which the next call has its start. Hence the bounds are an invariant
of sessions, and not of any call alone.
-/

namespace FatImage

variable {σ : Type} {ε ε' α β : Type}

namespace Action

theorem ends_true {ω : Type} {obs : World σ → ω} {v : ω} {x : Action σ ε α} :
    x.Ends obs v (fun _ _ => True) (fun _ _ => True) := by
  intro w _
  cases x w <;> trivial

theorem mapError_bind (g : ε → ε') (x : Action σ ε α) (f : α → Action σ ε β) :
    mapError g (x >>= f) = mapError g x >>= fun a => mapError g (f a) := by
  funext w
  simp only [mapError, bind, EStateM.bind]
  cases x w <;> rfl

theorem mapError_eq_ok_iff {g : ε → ε'} {x : Action σ ε α} {w w' : World σ} {a : α} :
    mapError g x w = .ok a w' ↔ x w = .ok a w' := by
  unfold mapError
  cases x w <;> simp

/-- What comes next matters for those answers only that there can be. -/
theorem bind_congr_of_ok {x : Action σ ε α} {f g : α → Action σ ε β}
    (h : ∀ w a w', x w = .ok a w' → f a = g a) : x >>= f = x >>= g := by
  funext w
  simp only [bind, EStateM.bind]
  cases hx : x w with
  | ok a w' => simp only [h w a w' hx]
  | error => rfl

theorem forEach_congr {f g : Nat → Action σ ε Unit} {count first : Nat}
    (h : ∀ i, first ≤ i → i < first + count → f i = g i) :
    forEach f count first = forEach g count first := by
  induction count generalizing first with
  | zero => rfl
  | succ count ih =>
      rw [forEach, forEach, h first (Nat.le_refl _) (by omega),
        ih fun i hi hi' => h i (by omega) (by omega)]

theorem mapError_forEach (g : ε → ε') (f : Nat → Action σ ε Unit) (count first : Nat) :
    mapError g (forEach f count first) = forEach (fun i => mapError g (f i)) count first := by
  induction count generalizing first with
  | zero => rfl
  | succ count ih => rw [forEach, forEach, mapError_bind, ih]

end Action

namespace Words

/-- Why a file is not placed in words: for a reason that the volume has, or because a
number does not fit. -/
inductive Fault where
  | volume (e : VolumeError)
  | overflow (o : Overflow)

/-- An action of the volume, among computations in words. -/
def act (x : Action σ VolumeError α) : Action σ Fault α :=
  Action.mapError .volume x

theorem act_bind (x : Action σ VolumeError α) (f : α → Action σ VolumeError β) :
    act (x >>= f) = act x >>= fun a => act (f a) :=
  Action.mapError_bind ..

/-- A number that actions go on with. -/
def number (x : Except Overflow α) : Action σ Fault α :=
  Action.ofExcept (x.mapError .overflow)

theorem number_ok_bind (a : α) (f : α → Action σ Fault β) : number (.ok a) >>= f = f a :=
  rfl

/-! ## The steps of placing, in words -/

section

variable (v : Volume σ)

def checkClusters (start : UInt16) (clusters : Nat) : Action σ Fault Unit := do
  let checked ← number (checkChain v.layout start clusters)
  act (Action.ofExcept checked)
  let some offset ← number (clusterOffset? v.layout start) | throw (.volume (.noSuchCluster start))
  let length ← number (mul .w64 clusters v.layout.sectorSize)
  act (v.image.ensureFits offset length)

def allocate (cursor : Cursor) (length : Nat) : Action σ Fault Allocation := do
  if 0x100000000 ≤ length then throw (.volume (.fileTooLarge length))
  let clusters ← number (hold .w32 (v.layout.clustersFor length))
  let start := if clusters = 0 then 0 else cursor.cluster
  if clusters ≠ 0 then checkClusters v start clusters
  let slot ← act v.freeSlot
  return { start, clusters := clusters.toUInt32, size := length.toUInt32, slot }

def writePayload (start : UInt16) (data : ByteArray) : Action σ Fault Unit :=
  if data.size = 0 then return ()
  else do
    let some offset ← number (clusterOffset? v.layout start)
      | throw (.volume (.noSuchCluster start))
    act (v.image.writeAt offset data)

def linkChain (start : UInt16) (count : Nat) : Action σ Fault Unit := do
  let checked ← number (checkChain v.layout start count)
  act (Action.ofExcept checked)
  if count ≠ 0 then
    let chain ← number (chainLinks start count)
    let links := (chain.flatMap Bytes.littleEndian16).toByteArray
    Action.forEach (fun i => do
      let offset ← number (linkOffset v.layout i start)
      act (v.image.writeAt offset links)) v.layout.mirrors 0

def writeRecord (slot : Nat) (r : Record) : Action σ Fault Unit :=
  if v.layout.slotCount ≤ slot then throw (.volume .directoryFull)
  else do
    let offset ← number (slotOffset v.layout slot)
    act (v.image.writeAt offset r.encode)

def place (cursor : Cursor) (name : ShortName) (data : ByteArray) :
    Action σ Fault (PlacedFile × Cursor) := do
  let a ← allocate v cursor data.size
  Action.note (.moved name .pending .allocated)
  writePayload v a.start data
  Action.note (.moved name .allocated .written)
  linkChain v a.start a.clusters.toNat
  writeRecord v a.slot (Record.file name a.start a.size)
  Action.note (.moved name .written .recorded)
  let next ← number (advance cursor a.clusters)
  Action.note (.moved name .recorded .done)
  Action.note (.placed name a.size a.start)
  return ({ name, slot := a.slot, start := a.start, clusters := a.clusters, size := a.size }, next)

end

/-! ## No word is too short -/

/-- Sectors have the least size at least, and one of 32 bits, and the data region starts
in the first half of what 64 bits can count. -/
structure Roomy (v : Volume σ) : Prop where
  least : leastSectorSize ≤ v.layout.sectorSize
  sector : v.layout.sectorSize < Width.w32.size
  data : v.layout.dataStart < 0x8000000000000000

section

variable {v : Volume σ} (h : Roomy v) {start : UInt16} {count : Nat}
include h

theorem Roomy.pos : 0 < v.layout.sectorSize :=
  Nat.lt_of_lt_of_le (by decide) h.least

/-- No place is cut that a cluster may have. -/
theorem Roomy.uncut : v.layout.Uncut := by
  have hdata := h.data
  have hsector := h.sector
  have hw : Width.w32.size = 0x100000000 := rfl
  exact Layout.uncut_of_le h.least (by omega)

theorem checkClusters_eq (hcount : start.toNat + count < Width.w32.size) :
    checkClusters v start count = act (Action.ofExcept (v.checkClusters start count)) := by
  have hlength : mul .w64 count v.layout.sectorSize = .ok (count * v.layout.sectorSize) := by
    have hw : Width.w32.size = 0x100000000 := rfl
    have hsector := h.sector
    have hmul : count * v.layout.sectorSize ≤ 0xFFFFFFFF * 0xFFFFFFFF :=
      Nat.mul_le_mul (by omega) (by omega)
    exact mul_of_lt (Nat.lt_of_le_of_lt hmul (by decide))
  unfold checkClusters Volume.checkClusters
  rw [checkChain_eq hcount, number_ok_bind]
  cases v.layout.checkChain start count with
  | error e => rfl
  | ok =>
      rw [clusterOffset?_eq h.uncut]
      cases v.layout.clusterOffset? start with
      | none => rfl
      | some offset =>
          change number (mul .w64 count v.layout.sectorSize) >>= _ = _
          rw [hlength]
          rfl

omit h in
theorem act_takeSlot (start : UInt16) (length : Nat) : act (v.takeSlot start length) =
    act v.freeSlot >>= fun slot =>
      pure ⟨start, (v.layout.clustersFor length).toUInt32, length.toUInt32, slot⟩ :=
  act_bind ..

theorem allocate_eq (cursor : Cursor) (length : Nat) :
    allocate v cursor length = act (v.allocate cursor length) := by
  rcases Nat.lt_or_ge length (0x100000000) with hlength | hlength
  · have hw : Width.w32.size = 0x100000000 := rfl
    have hle := Layout.clustersFor_le_of_lt h.least hlength
    have hstart := cursor.cluster.toNat_lt
    unfold allocate
    rw [Volume.allocate_eq v h.pos cursor hlength, if_neg (Nat.not_le.2 hlength),
      hold_of_lt (by omega)]
    simp only [number_ok_bind, ne_eq]
    by_cases h0 : v.layout.clustersFor length = 0
    · rw [if_neg (not_not_intro h0), if_pos h0, if_pos h0]
      rw [act_takeSlot]
    · rw [if_pos h0, if_neg h0, if_neg h0, checkClusters_eq h (by omega), act_bind]
      simp only [act_takeSlot]
  · unfold allocate Volume.allocate
    rw [if_pos hlength, if_pos hlength]
    rfl

theorem writePayload_eq (start : UInt16) (data : ByteArray) :
    writePayload v start data = act (v.writePayload start data) := by
  unfold writePayload Volume.writePayload
  split
  · rfl
  · rw [clusterOffset?_eq h.uncut]
    cases v.layout.clusterOffset? start <;> rfl

theorem linkChain_eq (hcount : count ≠ 0 → start.toNat + count ≤ v.layout.clusterLimit) :
    linkChain v start count = act (v.linkChain start count) := by
  have hlimit := Layout.clusterLimit_le v.layout
  have hdata := h.data
  have hroot := Layout.rootStart_le_data v.layout
  have hw : Width.w64.size = 0x10000000000000000 := rfl
  unfold linkChain Volume.linkChain
  by_cases h0 : count = 0
  · subst h0
    rfl
  · have hstop := hcount h0
    have hw16 : Width.w16.size = 0x10000 := rfl
    have hw32 : Width.w32.size = 0x100000000 := rfl
    rw [checkChain_eq (by omega), number_ok_bind, chainLinks_eq (by omega), number_ok_bind]
    simp only [if_pos h0, act_bind]
    rw [act, act, Action.mapError_forEach]
    refine Action.bind_congr_of_ok fun _ _ _ _ => Action.forEach_congr fun i _ hi => ?_
    have hend := Layout.mirror_end_le_root (show i < v.layout.mirrors by omega)
    have hmirror := Layout.two_mul_clusterLimit_le v.layout
    rw [linkOffset_eq h.uncut.bounded (by omega) (by rw [Layout.linkStart_eq]; omega),
      number_ok_bind]
    rfl

theorem writeRecord_eq (slot : Nat) (r : Record) :
    writeRecord v slot r = act (v.writeRecord slot r) := by
  unfold writeRecord Volume.writeRecord
  split
  · rfl
  · next hslot =>
      have hend := Layout.slotStart_end_le (Nat.not_le.1 hslot)
      have hdata := h.data
      have hw : Width.w64.size = 0x10000000000000000 := rfl
      rw [slotOffset_eq h.uncut.bounded (by omega), number_ok_bind]

end

end Words

namespace Volume

/-! ## Where a cursor moves -/

variable {vol : Volume σ}

/-- What is found for a file whatever the device answers: so many clusters that they can
be linked from the cursor on. -/
structure Found (vol : Volume σ) (cursor : Cursor) (length : Nat) (a : Allocation) : Prop where
  clusters : a.clusters.toNat = vol.layout.clustersFor length
  linked : vol.layout.clustersFor length ≠ 0 → a.start = cursor.cluster ∧
    cursor.cluster.toNat + vol.layout.clustersFor length ≤ vol.layout.clusterLimit

/-- The cursor has room for the clusters that are found, in its 16 bits. -/
theorem Found.counted {cursor : Cursor} {length : Nat} {a : Allocation}
    (h : vol.Found cursor length a) :
    cursor.cluster.toNat + vol.layout.clustersFor length < 0x10000 := by
  have hcursor := cursor.cluster.toNat_lt
  have hlimit := Layout.clusterLimit_le vol.layout
  by_cases h0 : vol.layout.clustersFor length = 0
  · omega
  · obtain ⟨-, hlinked⟩ := h.linked h0
    omega

theorem linked_of_checkClusters {start : UInt16} {count : Nat}
    (hstop : start.toNat + count ≤ 0x100000000) (h : vol.checkClusters start count = .ok ())
    (hcount : count ≠ 0) : start.toNat + count ≤ vol.layout.clusterLimit := by
  unfold checkClusters at h
  cases hcheck : vol.layout.checkChain start count with
  | error e =>
      rw [hcheck] at h
      cases h
  | ok =>
      have hlast := (Layout.checkChain_eq_ok_iff hstop).1 hcheck hcount
      omega

theorem ends_allocate (hs : 512 ≤ vol.layout.sectorSize) (cursor : Cursor) (length : Nat) :
    (vol.allocate cursor length).Ends (fun _ => ()) ()
      (fun a _ => vol.Found cursor length a) (fun _ _ => True) := by
  rcases Nat.lt_or_ge length (0x100000000) with hlength | hlength
  · have hcount := Layout.clustersFor_le_of_lt hs hlength
    have hstart := cursor.cluster.toNat_lt
    have hclusters : (vol.layout.clustersFor length).toUInt32.toNat =
        vol.layout.clustersFor length :=
      UInt32.toNat_ofNat_of_lt' (Nat.lt_of_le_of_lt hcount (by decide))
    rw [allocate_eq vol (by omega) cursor hlength]
    split
    · next h0 =>
        refine Action.ends_true.bind (fun slot _ _ => ?_) fun _ _ _ => trivial
        exact Action.ends_pure ⟨hclusters, fun hn => absurd h0 hn⟩
    · next h0 =>
        refine Action.ends_ofExcept_bind (fun _ hcheck => ?_) fun _ _ => trivial
        refine Action.ends_true.bind (fun slot _ _ => ?_) fun _ _ _ => trivial
        exact Action.ends_pure
          ⟨hclusters, fun _ => ⟨rfl, linked_of_checkClusters (by omega) hcheck h0⟩⟩
  · unfold allocate
    rw [if_pos hlength]
    exact Action.ends_ofExcept_bind (r := Except.error (VolumeError.fileTooLarge _))
      (fun _ he => by cases he) fun _ _ => trivial

/-- Behind a file that is placed the cursor is where its clusters end. -/
theorem ends_place (hs : 512 ≤ vol.layout.sectorSize) (cursor : Cursor) (name : ShortName)
    (data : ByteArray) : (vol.place cursor name data).Ends (fun _ => ()) ()
      (fun r _ => r.2.cluster.toNat = cursor.cluster.toNat + vol.layout.clustersFor data.size ∧
        (vol.layout.clustersFor data.size ≠ 0 → r.2.cluster.toNat ≤ vol.layout.clusterLimit))
      (fun _ _ => True) := by
  unfold place
  refine (ends_allocate hs cursor data.size).bind (fun a _ ha => ?_) fun _ _ _ => trivial
  -- the answers to the eight steps that are left have no part in the cursor
  iterate 8 refine Action.ends_true.bind (fun _ _ _ => ?_) fun _ _ _ => trivial
  have hnext : (cursor.advance a.clusters).cluster.toNat =
      cursor.cluster.toNat + vol.layout.clustersFor data.size := by
    have hcounted := ha.counted
    rw [Cursor.advance, UInt16.toNat_add, UInt32.toNat_toUInt16, ha.clusters]
    omega
  refine Action.ends_pure ⟨hnext, fun h0 => ?_⟩
  obtain ⟨-, hlinked⟩ := ha.linked h0
  exact hnext.trans_le hlinked

end Volume

namespace Words

/-- A call in words is the call, whatever the device does and wherever the cursor is. -/
theorem place_eq {v : Volume σ} (h : Roomy v) (cursor : Cursor) (name : ShortName)
    (data : ByteArray) : place v cursor name data = act (v.place cursor name data) := by
  unfold place Volume.place
  rw [allocate_eq h]
  simp only [act_bind]
  refine Action.bind_congr_of_ok fun w a w' ha => ?_
  have hfound := (Volume.ends_allocate h.least cursor data.size).of_ok rfl
    (Action.mapError_eq_ok_iff.1 ha)
  have hcounted := hfound.counted
  have hlinked : a.clusters.toNat ≠ 0 →
      a.start.toNat + a.clusters.toNat ≤ v.layout.clusterLimit := by
    rw [hfound.clusters]
    intro h0
    obtain ⟨hstart, hlinked⟩ := hfound.linked h0
    rwa [hstart]
  have hnext : cursor.cluster.toNat + a.clusters.toNat < Width.w16.size := by
    rwa [hfound.clusters]
  rw [writePayload_eq h, linkChain_eq h hlinked, writeRecord_eq h, advance_eq hnext]
  rfl

end Words

/-! ## Sessions -/

/-- The cursor for the next call: it moves only if the file was placed. -/
def Cursor.after (cursor : Cursor) : Except ε (PlacedFile × Cursor) → Cursor
  | .ok (_, next) => next
  | .error _ => cursor

/-- Places files one after the other, each from the cursor behind the last one that was
placed, and answers what came of each of them. -/
def placeInTurn (place : Cursor → ShortName → ByteArray → Action σ ε (PlacedFile × Cursor))
    (cursor : Cursor) :
    List (ShortName × ByteArray) → Action σ Empty (List (Except ε (PlacedFile × Cursor)))
  | [] => return []
  | (name, data) :: rest => do
    let answer ← Action.attempt (place cursor name data)
    let answers ← placeInTurn place (cursor.after answer) rest
    return answer :: answers

/-- The cursors of a session, from the one that it starts with. -/
def cursors (cursor : Cursor) : List (Except ε (PlacedFile × Cursor)) → List Cursor
  | [] => [cursor]
  | answer :: answers => cursor :: cursors (cursor.after answer) answers

/-- Where a cursor can be: before a cluster that can be linked, behind the last of these,
or at the start where no cluster can. -/
def Cursor.Within (cursor : Cursor) (l : Layout) : Prop :=
  2 ≤ cursor.cluster.toNat ∧ cursor.cluster.toNat ≤ max 2 l.clusterLimit

theorem Cursor.after_mapError (cursor : Cursor) (g : ε → ε')
    (r : Except ε (PlacedFile × Cursor)) : cursor.after (r.mapError g) = cursor.after r := by
  cases r <;> rfl

section

variable {vol : Volume σ} {cursor : Cursor} {name : ShortName} {data : ByteArray}
variable {w w' : World σ} {r : Except VolumeError (PlacedFile × Cursor)}

/-- A call moves the cursor forward, and leaves it where a cursor can be. -/
theorem Cursor.step (hs : 512 ≤ vol.layout.sectorSize)
    (hplace : (vol.place cursor name data).outcome w = (r, w')) :
    cursor.cluster.toNat ≤ (cursor.after r).cluster.toNat ∧
      (cursor.Within vol.layout → (cursor.after r).Within vol.layout) := by
  cases r with
  | error e => exact ⟨Nat.le_refl _, id⟩
  | ok placed =>
      obtain ⟨hnext, hlimit⟩ := (Volume.ends_place hs cursor name data).of_ok rfl
        (Action.outcome_eq_ok.1 hplace)
      have hle : cursor.cluster.toNat ≤ placed.2.cluster.toNat := by
        rw [hnext]
        exact Nat.le_add_right _ _
      refine ⟨hle, fun hwithin => ⟨Nat.le_trans hwithin.1 hle, ?_⟩⟩
      by_cases h0 : vol.layout.clustersFor data.size = 0
      · rw [h0, Nat.add_zero] at hnext
        exact hnext.trans_le hwithin.2
      · exact Nat.le_trans (hlimit h0) (Nat.le_max_right _ _)

theorem outcome_placeInTurn_cons
    {place : Cursor → ShortName → ByteArray → Action σ ε (PlacedFile × Cursor)}
    {r : Except ε (PlacedFile × Cursor)} {w₁ : World σ} {rest : List (ShortName × ByteArray)}
    {answers : List (Except ε (PlacedFile × Cursor))}
    (hplace : (place cursor name data).outcome w = (r, w₁))
    (hrest : (placeInTurn place (cursor.after r) rest).outcome w₁ = (.ok answers, w')) :
    (placeInTurn place cursor ((name, data) :: rest)).outcome w = (.ok (r :: answers), w') := by
  rw [placeInTurn, Action.outcome_bind_of_ok (Action.outcome_attempt hplace),
    Action.outcome_bind_of_ok hrest]
  rfl

end

/-- What comes of the files of a session, and where its cursors are. -/
theorem Volume.outcome_placeInTurn {vol : Volume σ} (h : Words.Roomy vol)
    (files : List (ShortName × ByteArray)) (cursor : Cursor) (w : World σ) :
    ∃ answers w', (placeInTurn vol.place cursor files).outcome w = (.ok answers, w') ∧
      (placeInTurn (Words.place vol) cursor files).outcome w =
        (.ok (answers.map (Except.mapError .volume)), w') ∧
      (cursors cursor answers).Pairwise (fun c c' => c.cluster.toNat ≤ c'.cluster.toNat) ∧
      (∀ c ∈ cursors cursor answers, cursor.cluster.toNat ≤ c.cluster.toNat) ∧
      (cursor.Within vol.layout → ∀ c ∈ cursors cursor answers, c.Within vol.layout) := by
  induction files generalizing cursor w with
  | nil =>
      refine ⟨[], w, rfl, rfl, List.pairwise_singleton _ _, ?_, ?_⟩
      · intro c hc
        rw [List.mem_singleton.1 hc]
      · intro hcursor c hc
        rwa [List.mem_singleton.1 hc]
  | cons file files ih =>
      obtain ⟨name, data⟩ := file
      rcases hplace : (vol.place cursor name data).outcome w with ⟨r, w₁⟩
      have hwords : (Words.place vol cursor name data).outcome w = (r.mapError .volume, w₁) := by
        rw [Words.place_eq h]
        exact Action.outcome_mapError hplace
      obtain ⟨hle, hwithin⟩ := Cursor.step h.least hplace
      obtain ⟨answers, w', hrest, hrest', hsorted, hfrom, hall⟩ := ih (cursor.after r) w₁
      refine ⟨r :: answers, w', outcome_placeInTurn_cons hplace hrest, ?_, ?_, ?_, ?_⟩
      · rw [← cursor.after_mapError Words.Fault.volume] at hrest'
        exact outcome_placeInTurn_cons hwords hrest'
      · rw [cursors, List.pairwise_cons]
        exact ⟨fun c hc => Nat.le_trans hle (hfrom c hc), hsorted⟩
      · intro c hc
        rcases List.mem_cons.1 hc with rfl | hc
        · exact Nat.le_refl _
        · exact Nat.le_trans hle (hfrom c hc)
      · intro hcursor c hc
        rcases List.mem_cons.1 hc with rfl | hc
        · exact hcursor
        · exact hall (hwithin hcursor) c hc

/-- In every session on a volume that was mounted, on a device that says it is shorter than
what 63 bits count, the calls in words do what the calls do, and so no number is cut. The
cursor of each call is not before that of the last one, and stays where a cursor can be. -/
theorem placeInTurn_uncut {d : Device σ} {l : Layout} {vol : Volume σ} {w₀ w₁ : World σ}
    (hmount : Volume.mount d l w₀ = .ok vol w₁) (hbounded : l.Bounded)
    (hsector : l.sectorSize < 0x100000000) (hlength : vol.image.length < 0x8000000000000000)
    (files : List (ShortName × ByteArray)) (w : World σ) :
    ∃ answers w', (placeInTurn vol.place .start files).outcome w = (.ok answers, w') ∧
      (placeInTurn (Words.place vol) .start files).outcome w =
        (.ok (answers.map (Except.mapError .volume)), w') ∧
      (cursors .start answers).Pairwise (fun c c' => c.cluster.toNat ≤ c'.cluster.toNat) ∧
      ∀ c ∈ cursors .start answers,
        2 ≤ c.cluster.toNat ∧ c.cluster.toNat ≤ max 2 l.clusterLimit := by
  obtain ⟨sectors, hmounted⟩ := Volume.ends_mounted.of_ok rfl hmount
  obtain ⟨-, -, -, -, -, rfl, ⟨hleast, -⟩, hfits⟩ := hmounted
  have hdata : vol.layout.dataStart < 0x8000000000000000 := by
    rw [hbounded.dataOffset_eq] at hfits
    have hgreatest : Image.greatest = 0xFFFFFFFFFFFFFFFF := rfl
    omega
  obtain ⟨answers, w', hanswers, hwords, hsorted, -, hwithin⟩ :=
    Volume.outcome_placeInTurn ⟨hleast, hsector, hdata⟩ files .start w
  exact ⟨answers, w', hanswers, hwords, hsorted,
    hwithin ⟨Nat.le_refl _, Nat.le_max_left _ _⟩⟩

/-- A session on a disk of zeros: a file of two clusters and an empty one. -/
theorem placeInTurn_uncut_bootDisk : ∃ vol w₀,
    (Volume.mount (Device.memory 512) Layout.bootDisk).start (Bytes.zeros 3000320) =
      (.ok vol, w₀) ∧
    ∃ answers w', (placeInTurn vol.place .start
        [(.letterA, Bytes.zeros 600), (.letterA, .empty)]).outcome w₀ = (.ok answers, w') ∧
      (placeInTurn (Words.place vol) .start
        [(.letterA, Bytes.zeros 600), (.letterA, .empty)]).outcome w₀ =
        (.ok (answers.map (Except.mapError .volume)), w') ∧
      (cursors .start answers).Pairwise (fun c c' => c.cluster.toNat ≤ c'.cluster.toNat) ∧
      ∀ c ∈ cursors .start answers,
        2 ≤ c.cluster.toNat ∧ c.cluster.toNat ≤ max 2 Layout.bootDisk.clusterLimit := by
  have hkeeps := Device.keeps_memory 512
  have hsize := Bytes.size_zeros 3000320
  have hdisk := Volume.size_zeros_lt_greatest
  obtain ⟨vol, w₀, hmount⟩ := Volume.exists_mount_zeros (s := Bytes.zeros 3000320) hkeeps rfl
    (by dsimp only)
  generalize Bytes.zeros 3000320 = disk at hsize hdisk hmount ⊢
  have hlength := Volume.length_le_of_mount hkeeps hdisk hmount
  exact ⟨vol, w₀, hmount, placeInTurn_uncut (Action.start_eq_ok.1 hmount) (by decide)
    (by decide) (by dsimp only at hlength; omega) _ w₀⟩

end FatImage
