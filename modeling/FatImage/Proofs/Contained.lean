import FatImage.Proofs.Crash
import FatImage.Proofs.Traffic

/-!
# Where a volume reaches

A volume that was mounted on so many sectors never touches those before its
table nor any sector that is not there, and what it moves are whole sectors.
This is so for any device, whatever it is that it keeps, and however often
it fails: a client may ask for anything, in any order, with any cursor and
from any link that is found on the disk, and a request that failed may be
followed by others. It is not a matter of the bytes on the disk either, for
no offset that is read from them is trusted. All that is asked of the size is
that the bytes of the sectors can be counted in 64 bits.

A disk in memory that has the sectors carries out all such calls. So if a
call is refused there, the disk is worn; its ends are never the reason.
-/

namespace FatImage

variable {σ τ : Type} {d : Device σ} {l : Layout} {sectors : Nat}

/-! ## Requests -/

/-- What a client may ask a volume for. -/
inductive Request (τ : Type) where
  | reset
  | place (cursor : Cursor) (name : ShortName) (data : ByteArray)
  | run (m : Manifest) (load : Loader τ)
  | chain (start : UInt16)
  | records

namespace Volume

/-- Does what is asked for and forgets the answer. -/
def serve (vol : Volume (σ × τ)) : Request τ → Action (σ × τ) VolumeError Unit
  | .reset => vol.reset
  | .place cursor name data => do
    let _ ← vol.place cursor name data
  | .run m load => do
    let _ ← vol.run m load.source
  | .chain start => do
    let _ ← vol.chain start
  | .records => do
    let _ ← vol.records

/-- Does one thing after the other, whether or not those before have failed. -/
def serveAll (vol : Volume (σ × τ)) : List (Request τ) → Action (σ × τ) VolumeError Unit
  | [] => return ()
  | r :: rest => do
    let _ ← (Action.attempt (vol.serve r) : Action (σ × τ) VolumeError (Except VolumeError Unit))
    vol.serveAll rest

end Volume

/-! ## Calls that stay inside -/

/-- Whatever was transferred lies behind the reserved sectors of the volume. -/
def Traffic.Inside (l : Layout) (sectors : Nat) (v : Traffic σ) : Prop :=
  ∀ c done, (c, done) ∈ v.calls → c = .count ∨ c = .flush ∨ l.Contains sectors c

theorem Traffic.Inside.push {v : Traffic σ} (h : v.Inside l sectors) {c : Call}
    (hc : c = .count ∨ c = .flush ∨ l.Contains sectors c) (s : σ) (done : Bool) :
    Traffic.Inside l sectors ⟨s, v.calls ++ [(c, done)]⟩ := by
  intro c' done' hmem
  rcases List.mem_append.1 hmem with hmem | hmem
  · exact h c' done' hmem
  · rw [List.mem_singleton, Prod.mk.injEq] at hmem
    rw [hmem.1]
    exact hc

theorem maintains_inside (hd : d.ReadsWhole) (load : Loader τ) :
    Machine.Maintains ⟨d.beside τ, load.source⟩ (l.Contains sectors)
      (Traffic.Inside l sectors) where
  whole _ h := (hd.beside τ).size h
  done hc hv _ := hv.push (Or.inr (Or.inr hc)) _ _
  refused hc hv _ := hv.push (Or.inr (Or.inr hc)) _ _
  load hv := Loader.ends_load fun _ => hv

namespace Volume

variable {ρ : Type} {vol : Volume ρ} {v : Traffic (σ × τ)}

/-- An action that keeps every call inside of the volume. -/
abbrev Inside (vol : Volume ρ) (sectors : Nat) {α : Type} (x : Action (σ × τ) VolumeError α)
    (v : Traffic (σ × τ)) : Prop :=
  x.Ends World.traffic v (fun _ => Traffic.Inside vol.layout sectors)
    (fun _ => Traffic.Inside vol.layout sectors)

theorem inside_flush (hv : v.Inside vol.layout sectors) :
    vol.Inside sectors (vol.on (d.beside τ)).image.flush v := by
  refine Device.ends_call.mono ?_ ?_
  · rintro a _ ⟨s, -, rfl⟩
    exact hv.push (Or.inr (Or.inl rfl)) s true
  · rintro e _ ⟨-, why, s, -, rfl⟩
    exact hv.push (Or.inr (Or.inl rfl)) s false

theorem inside_run (hd : d.ReadsWhole) (hspans : vol.image.Spans vol.layout sectors)
    (m : Manifest) (load : Loader τ) (hv : v.Inside vol.layout sectors) :
    vol.Inside sectors ((vol.on (d.beside τ)).run m load.source) v := by
  have hm : Machine.Maintains ⟨d.beside τ, load.source⟩ (vol.layout.Contains sectors)
      (Traffic.Inside vol.layout sectors) := maintains_inside hd load
  have hflush : ∀ v : Traffic (σ × τ), v.Inside vol.layout sectors →
      vol.Inside sectors (vol.on (d.beside τ)).image.flush v := fun _ => inside_flush
  have hrun := ends_run (m := m) hm hspans.allows hflush hv
  exact hrun

theorem inside_serve (hd : d.ReadsWhole) (hspans : vol.image.Spans vol.layout sectors)
    (r : Request τ) (hv : v.Inside vol.layout sectors) :
    vol.Inside sectors ((vol.on (d.beside τ)).serve r) v := by
  -- no bytes are loaded but by a run, so it does not matter from where
  have hm : Machine.Maintains ⟨d.beside τ, Loader.source fun _ t => (.error "", t)⟩
      (vol.layout.Contains sectors) (Traffic.Inside vol.layout sectors) :=
    maintains_inside hd _
  cases r with
  | reset => exact hm.ends (alike_reset hspans.allows) hv
  | place cursor name data =>
      exact hm.ends ((alike_place hspans.allows cursor name data).bind fun _ => .answer ()) hv
  | run m load =>
      exact (inside_run hd hspans m load hv).bind (fun _ _ hv₁ => Action.ends_pure hv₁)
        (fun _ _ he => he)
  | chain start =>
      exact hm.ends ((alike_chain hspans.allows.toAllowsReads start).bind fun _ => .answer ()) hv
  | records =>
      exact hm.ends ((alike_records hspans.allows.toAllowsReads).bind fun _ => .answer ()) hv

theorem inside_serveAll (hd : d.ReadsWhole) (hspans : vol.image.Spans vol.layout sectors)
    (requests : List (Request τ)) (hv : v.Inside vol.layout sectors) :
    ((vol.on (d.beside τ)).serveAll requests).Ends World.traffic v
      (fun _ => Traffic.Inside vol.layout sectors) (fun _ _ => False) := by
  induction requests generalizing v with
  | nil => exact Action.ends_pure hv
  | cons r rest ih =>
      exact (inside_serve hd hspans r hv).attempt_bind (fun _ _ hv₁ => ih hv₁)
        (fun _ _ hv₁ => ih hv₁)

theorem Mounted.spans {vol : Volume σ} {v v' : Traffic σ} (h : Mounted d l v vol sectors v')
    (hcounted : sectors * l.sectorSize < Image.greatest) :
    vol.image.Spans vol.layout sectors := by
  have hlength := h.length
  rw [Nat.min_eq_left (Nat.le_of_lt hcounted)] at hlength
  rw [← h.layout] at hlength hcounted
  exact ⟨by rw [h.sector, h.layout], hlength, by rw [hlength]; exact hcounted⟩

end Volume

/-- A disk in memory with so many sectors carries out every call inside of the
volume. -/
theorem Layout.Contains.carried_out {c : Call} {disk : ByteArray}
    (hc : c = .count ∨ c = .flush ∨ l.Contains sectors c)
    (hdisk : disk.size / l.sectorSize = sectors) :
    ∃ a disk', (Device.memory l.sectorSize).answer c disk = (.ok a, disk') := by
  have hsize : sectors * l.sectorSize ≤ disk.size := by
    rw [← hdisk]
    exact Nat.div_mul_le_self _ _
  cases c with
  | count => exact ⟨_, _, rfl⟩
  | flush => exact ⟨_, _, rfl⟩
  | read lba n =>
      obtain ⟨rfl, -, hlba⟩ : l.Contains sectors (.read lba n) :=
        (hc.resolve_left nofun).resolve_left nofun
      have hend := Nat.mul_le_mul_right l.sectorSize (show lba + 1 ≤ sectors from hlba)
      rw [Nat.add_mul, Nat.one_mul] at hend
      exact ⟨_, disk, Device.memory_read_eq_ok_iff.2 ⟨⟨Nat.mod_self _, by omega⟩, rfl, rfl⟩⟩
  | write lba data =>
      obtain ⟨n, -, hdata, -, hlba⟩ : l.Contains sectors (.write lba data) :=
        (hc.resolve_left nofun).resolve_left nofun
      have hend := Nat.mul_le_mul_right l.sectorSize hlba
      rw [Nat.add_mul, ← hdata] at hend
      have hmod : data.size % l.sectorSize = 0 := by rw [hdata, Nat.mul_mod_left]
      exact ⟨(), _, Device.memory_write_eq_ok_iff.2 ⟨⟨hmod, by omega⟩, rfl⟩⟩

/-- Whatever a client asks for, and however often the device fails: what is
transferred are whole sectors behind the reserved ones that the device has,
such as a disk in memory of that size never refuses. -/
theorem serveAll_contained (hd : d.ReadsWhole) {s : σ} {t : τ} {vol : Volume (σ × τ)}
    {w : World (σ × τ)}
    (hmount : (Volume.mount (d.beside τ) l).start (s, t) = (.ok vol, w))
    (hcount : (d.answer .count s).1 = .ok sectors)
    (hcounted : sectors * l.sectorSize < Image.greatest) (requests : List (Request τ)) :
    ∃ w', vol.serveAll requests w = .ok () w' ∧ ∀ c done, (c, done) ∈ w'.calls →
      (c = .count ∨ c = .flush ∨ l.Contains sectors c) ∧
      ∀ disk : ByteArray, disk.size / l.sectorSize = sectors →
        ∃ a disk', (Device.memory l.sectorSize).answer c disk = (.ok a, disk') := by
  obtain ⟨sectors', hmounted⟩ := Volume.ends_mounted.of_ok
    (v := ⟨(s, t), []⟩) rfl (Action.start_eq_ok.1 hmount)
  have hsame : sectors' = sectors := by
    have hanswer := congrArg Prod.fst hmounted.count
    exact Except.ok.inj (hanswer.symm.trans hcount)
  subst hsame
  have hspans := hmounted.spans hcounted
  have hl := hmounted.layout
  have hstart : w.traffic.Inside vol.layout sectors' := by
    intro c done hmem
    rw [hmounted.calls, List.nil_append, List.mem_singleton, Prod.mk.injEq] at hmem
    exact Or.inl hmem.1
  have hserved := Volume.inside_serveAll hd hspans requests hstart
  rw [Volume.on_of_device hmounted.device, hl] at hserved
  obtain ⟨_, w', hok, hinside⟩ := hserved.exists_ok rfl
  refine ⟨w', hok, fun c done hmem => ?_⟩
  have hc := hinside c done hmem
  exact ⟨hc, fun disk hdisk => Layout.Contains.carried_out hc hdisk⟩

/-- The call of number 18 would write a link of the file, so the device fails inside of a
request, and two more requests follow. -/
theorem serveAll_contained_bootDisk :
    ∃ (vol : Volume ((ByteArray × Nat) × Unit)) (w w' : World ((ByteArray × Nat) × Unit)),
      (Volume.mount (Device.failingOnce 512 18 Unit) Layout.bootDisk).start
        ((Bytes.zeros 3000320, 0), ()) = (.ok vol, w) ∧
      vol.serveAll [.reset, .place .start .letterA (Bytes.zeros 3), .chain 2, .records] w =
        .ok () w' ∧
      ∀ c done, (c, done) ∈ w'.calls →
        (c = .count ∨ c = .flush ∨ Layout.bootDisk.Contains 5860 c) ∧
        ∀ disk : ByteArray, disk.size / 512 = 5860 →
          ∃ a disk', (Device.memory 512).answer c disk = (.ok a, disk') := by
  obtain ⟨vol, w, -, hmount, -⟩ := Volume.exists_reset_bootDisk (k := 18) (by decide)
  have hcount : (((Device.memory 512).refusing (.once 18)).answer .count
      (Bytes.zeros 3000320, 0)).1 = .ok 5860 := by
    change Except.ok ((Bytes.zeros 3000320).size / 512) = Except.ok 5860
    rw [Bytes.size_zeros]
  obtain ⟨w', hserved, hinside⟩ := serveAll_contained
    ((Device.readsWhole_memory 512).refusing (.once 18)) hmount hcount (by decide)
    [.reset, .place .start .letterA (Bytes.zeros 3), .chain 2, .records]
  exact ⟨vol, w, w', hmount, hserved, hinside⟩

end FatImage
