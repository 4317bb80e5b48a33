import FatImage.Proofs.Crash
import FatImage.Proofs.Grammar
import FatImage.Proofs.HalfReset

/-!
# Names that come once

Two spellings of a name are the same eleven bytes, and a directory with these
bytes in two of its records would show the one file and hide the other. So a
manifest takes no name twice: this is an invariant of `offer`, which is how a
manifest grows, and a text that is read starts with it.

On the disk the names can be no more than in the manifest. The records of a
disk that was filled are those of the files placed, in order; these are some
of the files loaded, and these come from some of the entries. A list without
duplicates has none in any list that is left of it. If the volume has not
even its places where they should be, then its reset fails, and the directory
that is left shows one record at most.
-/

namespace FatImage

variable {τ : Type} {l : Layout} {m : Manifest} {e : Entry} {fs : List File}

/-! ## Entries and names -/

/-- An entry made of two texts, whatever placeholder it was given then. -/
inductive Entry.Made : Entry → Prop where
  | ofName {name source : String} {e : Entry} (h : Entry.ofName name source = .ok e) : Made e
  | withPlaceholder {e : Entry} (h : Made e) (size : UInt32) : Made (e.withPlaceholder size)

theorem Entry.Made.parsed (h : e.Made) : e.name.Parsed := by
  induction h with
  | @ofName name source e h =>
      unfold Entry.ofName at h
      cases hname : ShortName.ofString name with
      | error why =>
          rw [hname] at h
          cases h
      | ok name' =>
          rw [hname] at h
          cases h
          exact ⟨name, hname⟩
  | withPlaceholder _ _ ih => exact ih

namespace Manifest

/-! ## Manifests that grow -/

/-- Adds an entry at the end of the manifest, which stays as it is if that is refused. -/
def offer (m : Manifest) (e : Entry) : Except ManifestError Unit × Manifest :=
  match m.push e with
  | .ok m' => (.ok (), m')
  | .error why => (.error why, m)

/-- A manifest that was empty or read from a text, and was then offered entries. -/
inductive Built : Manifest → Prop where
  | empty : Built empty
  | ofText {text : String} {m : Manifest} (h : ofText text = .ok m) : Built m
  | offer {m : Manifest} {e : Entry} (h : Built m) (he : e.Made) : Built (m.offer e).2

/-- What comes of offering an entry: it goes behind the others, unless one of them
has its name. -/
structure Offered (m : Manifest) (e : Entry) (r : Except ManifestError Unit)
    (m' : Manifest) : Prop where
  taken_iff : r = .ok () ↔ ∀ e' ∈ m.entries, e'.name.bytes ≠ e.name.bytes
  taken : r = .ok () → m'.listings = m.listings ++ [⟨m.length + 1, e⟩]
  refused : ∀ why, r = .error why → why = ⟨m.length + 1, .duplicateName e.name⟩ ∧ m' = m

theorem lists_eq_false_iff (m : Manifest) (name : ShortName) :
    m.lists name = false ↔ ∀ e ∈ m.entries, e.name.bytes ≠ name.bytes := by
  simp only [lists, entries, List.any_eq_false, List.mem_map, beq_iff_eq, ne_eq,
    ShortName.bytes_inj, forall_exists_index, and_imp, forall_apply_eq_imp_iff₂]

theorem offered (m : Manifest) (e : Entry) : Offered m e (m.offer e).1 (m.offer e).2 := by
  have hnew := m.lists_eq_false_iff e.name
  unfold offer push pushAt
  cases hlists : m.lists e.name with
  | false =>
      rw [hlists] at hnew
      exact ⟨⟨fun _ => hnew.1 rfl, fun _ => rfl⟩, fun _ => rfl, nofun⟩
  | true =>
      rw [hlists] at hnew
      refine ⟨⟨nofun, fun h => absurd (hnew.2 h) nofun⟩, nofun, fun why hwhy => ?_⟩
      cases hwhy
      exact ⟨rfl, rfl⟩

/-- Every name was read from a text, and none comes twice. -/
structure Proper (m : Manifest) : Prop where
  distinct : (m.entries.map Entry.name).Nodup
  parsed : ∀ e ∈ m.entries, e.name.Parsed

theorem Proper.offer (h : m.Proper) (he : e.name.Parsed) : (m.offer e).2.Proper := by
  have hoffered := m.offered e
  cases hr : (m.offer e).1 with
  | error why =>
      rw [(hoffered.refused why hr).2]
      exact h
  | ok _ =>
      have hentries : (m.offer e).2.entries = m.entries ++ [e] := by
        rw [entries, hoffered.taken hr, List.map_append]
        rfl
      refine ⟨?_, ?_⟩
      · rw [hentries, List.map_append, List.map_singleton, List.nodup_append]
        refine ⟨h.distinct, List.nodup_singleton _, ?_⟩
        intro name hname name' hname'
        obtain ⟨e', he', rfl⟩ := List.mem_map.1 hname
        rw [List.mem_singleton.1 hname']
        exact fun hsame => hoffered.taken_iff.1 hr e' he' (ShortName.bytes_inj.2 hsame)
      · intro e' he'
        rw [hentries, List.mem_append, List.mem_singleton] at he'
        rcases he' with he' | rfl
        · exact h.parsed e' he'
        · exact he

theorem Listed.proper {rows : List Row} (h : Listed rows m.listings) : m.Proper where
  distinct := by
    rw [Manifest.entries, List.map_map]
    exact h.distinct
  parsed e he := by
    obtain ⟨listing, hlisting, rfl⟩ := List.mem_map.1 he
    obtain ⟨row, -, hrow⟩ := h.exists_row hlisting
    obtain ⟨first, -, hparse⟩ := hrow.parse
    exact ⟨String.ofList first, by rw [ShortName.ofString, String.toList_ofList, hparse]⟩

theorem Built.proper (h : m.Built) : m.Proper := by
  induction h with
  | empty => exact ⟨List.nodup_nil, nofun⟩
  | ofText h => exact (listed_of_ofText h).proper
  | offer _ he ih => exact ih.offer he.parsed

end Manifest

/-! ## Names on the disk -/

theorem Layout.records_names : (l.records fs).map Record.name = fs.map File.name := by
  induction fs using List.reverseRecOn with
  | nil => rfl
  | append_singleton fs f ih =>
      rw [records, placements_append, List.map_append, List.map_append, List.map_append]
      exact congrArg (· ++ [f.name]) ih

/-- Names are loaded in the order of the manifest, and none that is not in it. -/
theorem loaded_names_sublist (load : Loader τ) (entries : List Entry) (t : τ) :
    ((loaded (load.answers entries t)).map File.name).Sublist (entries.map Entry.name) := by
  induction entries generalizing t with
  | nil => exact List.Sublist.slnil
  | cons e rest ih =>
      rw [Loader.answers, List.map_cons]
      cases (load e t).1 with
      | ok data => exact (ih _).cons_cons e.name
      | error reason => exact (ih _).cons e.name

section

variable {n : Nat} {disk : ByteArray} {t : τ} {vol : Volume (ByteArray × τ)}
  {w : World (ByteArray × τ)}
  (hmount : (Volume.mount ((Device.memory n).beside τ) l).start (disk, t) = (.ok vol, w))
include hmount

/-- However filling a disk in memory ends, the first of the loaded files are on it. -/
theorem fill_stopped (load : Loader τ) (hdisk : disk.size < Image.greatest) (hu : l.Uncut)
    (hmirror : 0 < l.mirrorSectors) (h32 : 32 ∣ l.sectorSize)
    (hnames : ∀ e ∈ m.entries, e.name.Parsed) :
    ∃ k r w', (fill ((Device.memory n).beside τ) l m load.source).start (disk, t) =
      (r, w') ∧ vol.Stopped disk False ((loaded (load.answers m.entries t)).take k)
        (World.view (fun s => (s.1, s.2)) w') := by
  have hkeeps : ((Device.memory n).beside τ).Keeps (fun s => (s.1, s.2)) False :=
    (Device.keeps_memory n).beside τ
  obtain ⟨hw, rfl, hstands, hlength, -⟩ := Volume.whole_of_mount hkeeps hdisk hmount hu
  have hreset := (hstands.reset (v := ⟨disk, t, []⟩) hlength
    (hstands.four_le_mirrorBytes hmirror)).mono (fun _ _ hv' => hv') (fun _ _ he => he.2)
  obtain ⟨_, w₁, hw₁, -⟩ := hreset.exists_ok hw
  obtain ⟨hok, herror⟩ := Volume.Whole.run_of_reset (g := fun disk => disk) load hstands h32
    hlength hmirror hnames hw hw₁
  rw [fill_of_mount hmount]
  cases hrun : vol.run m load.source w with
  | ok report w' =>
      refine ⟨(loaded (load.answers m.entries t)).length, .ok report, w', rfl, ?_⟩
      rw [List.take_length]
      exact (hok report w' hrun).sound.stopped
  | error e w' =>
      obtain ⟨k, -, hstopped⟩ := herror e w' hrun
      exact ⟨k, .error e, w', rfl, hstopped⟩

/-- If the data region does not start at a place that 64 bits can count, then filling a disk
in memory fails, and its directory shows one record at most. -/
theorem fill_short (source : Source (ByteArray × τ)) (hdisk : disk.size < diskLimit)
    (hnarrow : l.Narrow) (hbounded : ¬ l.Bounded) (hmirror : 0 < l.mirrorSectors)
    (h32 : 32 ∣ l.sectorSize) :
    ∃ e w', (fill ((Device.memory n).beside τ) l m source).start (disk, t) = (.error e, w') ∧
      w'.state.1.size = disk.size ∧ l.Short vol.image.length w'.state.1 := by
  have hkeeps : ((Device.memory n).beside τ).Keeps (fun s => (s.1, s.2)) False :=
    (Device.keeps_memory n).beside τ
  have hcounted : disk.size < Image.greatest := Nat.lt_trans hdisk (by decide)
  have hlength : vol.image.length ≤ disk.size :=
    Volume.length_le_of_mount hkeeps hcounted hmount
  obtain ⟨hw, rfl, hopened, -⟩ := Volume.opened_of_mount hkeeps hcounted hmount
  have hlimit := Nat.lt_of_le_of_lt hlength hdisk
  have hreset := ((hopened.reset (v := ⟨disk, t, []⟩) hlength hnarrow).and
    (hopened.reset_short hnarrow hlimit hlength hmirror h32)).mono
    (fun _ _ hv' => hbounded hv'.1.bounded) (fun _ _ he => he.2)
  have hrun := hopened.run_of_reset_stops hreset m source
  rw [fill_of_mount hmount]
  cases hvol : vol.run m source w with
  | ok report w' => exact (hrun.of_ok hw hvol).elim
  | error e w' =>
      obtain ⟨hsize, hshort⟩ := hrun.of_error hw hvol
      exact ⟨e, w', rfl, hsize, hshort⟩

end

/-- Whoever mounts the disk again and reads its directory finds no eleven bytes twice. If the
layout has its places, the directory is read, and has names of the manifest only, in their
order. -/
def DistinctOn (l : Layout) (n : Nat) (m : Manifest) (left : ByteArray) : Prop :=
  ∃ vol w, (Volume.mount (Device.memory n) l).start left = (.ok vol, w) ∧
    (∀ rs w', vol.records w = .ok rs w' → (rs.map fun r => r.name.bytes).Nodup) ∧
    (l.Bounded → ∃ rs w', vol.records w = .ok rs w' ∧
      (rs.map Record.name).Sublist (m.entries.map Entry.name))

theorem Manifest.Proper.bytes_nodup (h : m.Proper) {names : List ShortName}
    (hnames : names.Sublist (m.entries.map Entry.name)) :
    (names.map ShortName.bytes).Nodup :=
  (h.distinct.sublist hnames).map fun _ _ => ShortName.bytes_inj.1

theorem Survive.distinctOn (hm : m.Proper) {n : Nat} {left : ByteArray}
    (h : Survive l n left fs)
    (hnames : (fs.map File.name).Sublist (m.entries.map Entry.name)) :
    DistinctOn l n m left := by
  obtain ⟨vol, w, w', hmount, hrecords⟩ := h.records
  have hsublist : ((l.records fs).map Record.name).Sublist (m.entries.map Entry.name) := by
    rwa [Layout.records_names]
  have hnodup := hm.bytes_nodup hsublist
  rw [List.map_map] at hnodup
  refine ⟨vol, w, hmount, fun rs w'' hrs => ?_, fun _ => ⟨_, w', hrecords, hsublist⟩⟩
  rw [hrecords, EStateM.Result.ok.injEq] at hrs
  rw [← hrs.1]
  exact hnodup

theorem nodup_of_length_le_one {α : Type} {xs : List α} (h : xs.length ≤ 1) : xs.Nodup := by
  match xs, h with
  | [], _ => exact List.nodup_nil
  | [x], _ => exact List.nodup_singleton x

/-- A directory that shows one record at most shows no name twice. -/
theorem Layout.Short.distinctOn {n : Nat} {left : ByteArray} {vol : Volume ByteArray}
    {w : World ByteArray} (hleft : left.size < Image.greatest)
    (hmount : (Volume.mount (Device.memory n) l).start left = (.ok vol, w))
    (hbounded : ¬ l.Bounded) (h : l.Short vol.image.length left) : DistinctOn l n m left := by
  have hkeeps := Device.keeps_memory n
  have hlength : vol.image.length ≤ left.size :=
    Volume.length_le_of_mount hkeeps hleft hmount
  obtain ⟨hw, rfl, hopened, -⟩ := Volume.opened_of_mount hkeeps hleft hmount
  have hread := hopened.records_of_short (v := ⟨left, (), []⟩) hlength h
  refine ⟨vol, w, hmount, fun rs w' hrs => ?_, fun h => absurd h hbounded⟩
  refine nodup_of_length_le_one ?_
  rw [List.length_map]
  exact hread.of_ok hw hrs

/-- In a manifest, and on any disk in memory that is filled from it, be it to the end
or not, no name comes twice. -/
theorem built_distinct (h : m.Built) :
    (m.entries.map fun e => e.name.bytes).Nodup ∧
    (∀ e, e.Made → m.Offered e (m.offer e).1 (m.offer e).2) ∧
    ∀ {τ : Type} (load : Loader τ) {l : Layout} {n : Nat} {disk : ByteArray} {t : τ}
      {vol : Volume (ByteArray × τ)} {w : World (ByteArray × τ)},
      (Volume.mount ((Device.memory n).beside τ) l).start (disk, t) = (.ok vol, w) →
      disk.size < diskLimit → l.Narrow → 0 < l.mirrorSectors → 32 ∣ l.sectorSize →
      ∃ r w', (fill ((Device.memory n).beside τ) l m load.source).start (disk, t) = (r, w') ∧
        DistinctOn l n m w'.state.1 := by
  have hproper := h.proper
  refine ⟨?_, fun e _ => m.offered e, ?_⟩
  · have := hproper.bytes_nodup (List.Sublist.refl _)
    rwa [List.map_map] at this
  · intro τ load l n disk t vol w hmount hdisk hnarrow hmirror h32
    have hkeeps : ((Device.memory n).beside τ).Keeps (fun s => (s.1, s.2)) False :=
      (Device.keeps_memory n).beside τ
    have hcounted : disk.size < Image.greatest := Nat.lt_trans hdisk (by decide)
    have hlength : vol.image.length = disk.size / l.sectorSize * l.sectorSize :=
      Volume.length_of_mount hkeeps hcounted hmount
    have hlimit : vol.image.length < diskLimit :=
      Nat.lt_of_le_of_lt (hlength ▸ Nat.div_mul_le_self _ _) hdisk
    obtain ⟨-, rfl, hopened, -, hsector⟩ := Volume.opened_of_mount hkeeps hcounted hmount
    by_cases hbounded : vol.layout.Bounded
    · have hu := ((hopened.stands hbounded).whole hnarrow hlimit).uncut
      obtain ⟨-, -, hwhole, -, haccepted⟩ := Volume.whole_of_mount hkeeps hcounted hmount hu
      obtain ⟨k, r, w', hfill, hstopped⟩ :=
        fill_stopped hmount load hcounted hu hmirror h32 hproper.parsed
      refine ⟨r, w', hfill, (hstopped.survive hwhole hcounted haccepted).distinctOn hproper ?_⟩
      exact ((List.take_sublist k _).map File.name).trans
        (loaded_names_sublist load m.entries t)
    · obtain ⟨e, w', hfill, hsize, hshort⟩ :=
        fill_short hmount load.source hdisk hnarrow hbounded hmirror h32
      have hpasses : vol.layout.Passes n w'.state.1.size :=
        ⟨hopened.least, hsector, by rw [hsize, ← hlength]; exact hopened.data⟩
      have hleft : w'.state.1.size < Image.greatest := by rw [hsize]; exact hcounted
      obtain ⟨vol', w₁, hmount'⟩ :=
        Volume.exists_mount_of_passes (Device.keeps_memory n) hleft hpasses
      have hlength' := Volume.length_of_mount (Device.keeps_memory n) hleft hmount'
      rw [hlength, ← hsize, ← hlength'] at hshort
      exact ⟨_, w', hfill, hshort.distinctOn hleft hmount' hbounded⟩

/-- The second of two entries is spelled in another way than the first, and is refused. -/
theorem built_distinct_bootDisk :
    ((Manifest.empty.offer ⟨.letterA, "a", none⟩).2.offer
      ⟨.letterA, "b", some 5⟩).2.Built ∧
    (([⟨.letterA, "a", none⟩] : List Entry).map fun e => e.name.bytes).Nodup ∧
    ∃ r w', (fill ((Device.memory 512).beside Unit) Layout.bootDisk
        ((Manifest.empty.offer ⟨.letterA, "a", none⟩).2.offer ⟨.letterA, "b", some 5⟩).2
        (Loader.source fun _ t => (.ok (Bytes.zeros 3), t))).start
        (Bytes.zeros 3000320, ()) = (r, w') ∧
      DistinctOn Layout.bootDisk 512
        ((Manifest.empty.offer ⟨.letterA, "a", none⟩).2.offer ⟨.letterA, "b", some 5⟩).2
        w'.state.1 := by
  have hupper : Entry.ofName "A" "a" = .ok ⟨.letterA, "a", none⟩ := rfl
  have hlower : Entry.ofName "a" "b" = .ok ⟨.letterA, "b", none⟩ := rfl
  have hbuilt := (Manifest.Built.empty.offer (.ofName hupper)).offer
    (.withPlaceholder (.ofName hlower) 5)
  obtain ⟨vol, w, hmount⟩ := Volume.exists_mount_zeros (s := (Bytes.zeros 3000320, ()))
    ((Device.keeps_memory 512).beside Unit) rfl (by dsimp only)
  obtain ⟨hnodup, -, hfill⟩ := built_distinct hbuilt
  exact ⟨hbuilt, hnodup, hfill (fun _ t => (.ok (Bytes.zeros 3), t)) hmount
    Volume.size_zeros_lt_diskLimit Layout.narrow_bootDisk (by decide) (by decide)⟩

end FatImage
