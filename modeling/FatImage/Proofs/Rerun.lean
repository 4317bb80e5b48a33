import FatImage.Proofs.Frame
import FatImage.Proofs.NoText
import FatImage.Proofs.Outcome
import FatImage.Proofs.Repeat

/-!
# Running the program again

What holds of filling an image twice holds of the program, if the second run
gets so far with the same manifest. It gets as far as the first, because the
files that the first has left have all that was there, apart from the image
itself. So the manifest must not be read from the image, besides what the
entries have to satisfy: these conditions are `Repeatable`.

Neither can be left out. Where an entry is in front of the one that creates
its file, the second run places one file more. And an image can be a list of
files, one of blanks for example; but it is none after a run has filled it.
-/

namespace FatImage

open Host

namespace Program

variable {o : Options} {t t₁ : Tree} {m : Manifest} {p : Place} {b b₁ : ByteArray}

/-- What a run relies on that is to come to the same when it is repeated: the size of the
image is a number of 64 bits, neither the manifest nor an entry is the image itself, and
of the entries that lead to one missing file the first decides whether it is created. -/
structure Repeatable (o : Options) (t : Tree) (m : Manifest) (p : Place) (b : ByteArray) :
    Prop where
  counted : b.size < Image.greatest
  manifest : ∀ path, o.manifest = some path → t.target? path ≠ some p
  sources : ∀ e ∈ m.entries, t.target? (joinPath o.root e.source) ≠ some p
  placeholders : FirstDecides t o.root m.entries

theorem readText_of_changes {es : List Entry} {root path text : String}
    (h : Changes es root p b t t₁) (hpath : t.target? path ≠ some p)
    (hread : t.readText path = .ok text) : t₁.readText path = .ok text := by
  rw [Tree.readText_eq] at hread ⊢
  cases hfound : t.findFile path with
  | error why =>
      rw [hfound] at hread
      cases hread
  | ok found =>
      obtain ⟨hplace, hfile⟩ := Tree.findFile_eq_ok_iff.1 hfound
      have hne : found.1 ≠ p := fun heq => hpath (by rw [hplace, heq])
      have hfound₁ : t₁.findFile path = .ok found := by
        refine Tree.findFile_eq_ok_iff.2 ⟨?_, h.kept _ _ hne hfile⟩
        rw [h.grown.target?_eq, hplace]
      rwa [hfound₁, ← hfound]

/-- A second run gets the same manifest, and the image that the first has left. -/
theorem Ready.again (h : Ready o t m p b)
    (hmanifest : ∀ path, o.manifest = some path → t.target? path ≠ some p)
    (hchanges : Changes m.entries o.root p b t t₁) (hfile : t₁.get? p = some (.file b₁)) :
    Ready o t₁ m p b₁ where
  asks := by
    cases h.asks with
    | boot hnone hm => exact .boot hnone hm
    | file hsome hread hm =>
        exact .file hsome (readText_of_changes hchanges (hmanifest _ hsome) hread) hm
  placeholders := h.placeholders
  image := by
    rw [Tree.findFile_eq_ok_iff, hchanges.grown.target?_eq]
    exact ⟨(Tree.findFile_eq_ok_iff.1 h.image).1, hfile⟩

theorem accepted_wholeSectors
    (hlong : layout.dataStart ≤ b.size - b.size % layout.sectorSize) :
    layout.Accepted layout.sectorSize (wholeSectors layout.sectorSize b).size := by
  have hdata : layout.dataStart = 2375680 := by decide
  rw [hdata] at hlong
  rw [size_wholeSectors]
  exact Volume.accepted_bootDisk hlong

/-- What the work of a run comes to, it comes to once more. -/
theorem Works.repeats {r r₂ : Except String Nat} {t₂ : Tree} (hready : Ready o t m p b)
    (h : Repeatable o t m p b)
    (hlong : layout.dataStart ≤ b.size - b.size % layout.sectorSize)
    (hworks : Works o t r t₁) (hworks₂ : Works o t₁ r₂ t₂) :
    r₂.toOption = r.toOption ∧ ∀ q, t₂.get? q = t₁.get? q := by
  obtain ⟨filled, w, hfill, rfl, hr⟩ := hworks.of_ready hready
  have hfile := Tree.get?_of_findFile hready.image
  obtain ⟨b₁, filled₂, w₂, hfile₁, hsize₁, hfill₂, hplaced, hsame⟩ := fill_repeats hfile
    h.counted uncut_layout (accepted_wholeSectors hlong) h.sources h.placeholders hfill
  have hready₂ := hready.again h.manifest (changes_of_fill hfile hfill) hfile₁
  obtain ⟨filled₂', w₂', hfill₂', rfl, hr₂⟩ := hworks₂.of_ready hready₂
  rw [imageDevice, hsize₁, hfill₂, Prod.mk.injEq] at hfill₂'
  obtain ⟨rfl, rfl⟩ := hfill₂'
  refine ⟨?_, hsame⟩
  rw [hr, hr₂, ← Function.comp_def Array.size, ← Option.map_map, ← Option.map_map, hplaced]

/-- A run, and a second run over the files that it has left: the exit code is the same, so
is what is printed, and every file stays as the first run has left it. -/
structure Repeats (arguments : List String) (setting : Option String) (t : Tree) : Prop where
  code : (run arguments setting (run arguments setting t).tree).code =
    (run arguments setting t).code
  stdout : (run arguments setting (run arguments setting t).tree).stdout =
    (run arguments setting t).stdout
  files : ∀ q, (run arguments setting (run arguments setting t).tree).tree.get? q =
    (run arguments setting t).tree.get? q

theorem repeats_of_unchanged {arguments : List String} {setting : Option String}
    (h : (run arguments setting t).tree = t) : Repeats arguments setting t := by
  constructor <;> simp only [h, implies_true]

/-- A run that is repeatable repeats what it has done and leaves it as it is. -/
theorem run_repeats (arguments : List String) (setting : Option String) (t : Tree)
    (h : ∀ o m p b, Options.parse arguments = .ok o → Ready o t m p b →
      Repeatable o t m p b) : Repeats arguments setting t := by
  cases hparse : Options.parse arguments with
  | error e => exact repeats_of_unchanged (tree_run_of_error setting hparse)
  | ok o =>
      have hfirst := run_of_parse (t := t) setting hparse
      by_cases hgoes : ∃ m p b, Ready o t m p b ∧
          layout.dataStart ≤ b.size - b.size % layout.sectorSize
      · obtain ⟨m, p, b, hready, hlong⟩ := hgoes
        have hrepeats : ∀ {r r₂ t₂}, Works o t r (run arguments setting t).tree →
            Works o (run arguments setting t).tree r₂ t₂ → r₂.toOption = r.toOption ∧
              ∀ q, t₂.get? q = (run arguments setting t).tree.get? q :=
          Works.repeats hready (h o m p b hparse hready) hlong
        have hsecond := run_of_parse (t := (run arguments setting t).tree) setting hparse
        rcases hfirst with ⟨count, hworks, hcode, hstdout⟩ | ⟨message, hworks, hcode, hstdout⟩
        · rcases hsecond with ⟨count₂, hworks₂, hcode₂, hstdout₂⟩ | ⟨message₂, hworks₂, -⟩
          · obtain ⟨hr, hsame⟩ := hrepeats hworks hworks₂
            obtain rfl := Option.some.inj hr
            exact ⟨hcode₂.trans hcode.symm, hstdout₂.trans hstdout.symm, hsame⟩
          · cases (hrepeats hworks hworks₂).1
        · rcases hsecond with ⟨count₂, hworks₂, -⟩ | ⟨message₂, hworks₂, hcode₂, hstdout₂⟩
          · cases (hrepeats hworks hworks₂).1
          · exact ⟨hcode₂.trans hcode.symm, hstdout₂.trans hstdout.symm,
              (hrepeats hworks hworks₂).2⟩
      · -- a run that cannot go on leaves all files as they were
        have hblocked : ∀ m p b, Ready o t m p b →
            b.size - b.size % layout.sectorSize < layout.dataStart :=
          fun m p b hready => Nat.lt_of_not_le fun hlong => hgoes ⟨m, p, b, hready, hlong⟩
        refine repeats_of_unchanged ?_
        rcases hfirst with ⟨count, hworks, -⟩ | ⟨message, hworks, -⟩
        · exact (hworks.of_blocked hblocked).2
        · exact (hworks.of_blocked hblocked).2

/-- An entry that creates the file that it leads to. -/
theorem run_repeats_placeholder :
    ∃ t, t = machineWith "A x placeholder=3" (Bytes.zeros 3000320) ∧
      Ready { image := "d", manifest := some "l" } t ⟨[⟨1, ⟨.letterA, "x", some 3⟩⟩]⟩
        ["srv", "d"] (Bytes.zeros 3000320) ∧
      Repeats ["-i", "d", "-m", "l"] none t := by
  have hready : Ready { image := "d", manifest := some "l" }
      (machineWith "A x placeholder=3" (Bytes.zeros 3000320))
      ⟨[⟨1, ⟨.letterA, "x", some 3⟩⟩]⟩ ["srv", "d"] (Bytes.zeros 3000320) := by
    refine ready_machineWith ?_ (by decide) _
    cbv
  have hplace := target?_x_machineWith "A x placeholder=3" (Bytes.zeros 3000320)
  refine ⟨_, rfl, hready,
    run_repeats ["-i", "d", "-m", "l"] none _ fun o m p b ho hready' => ?_⟩
  obtain rfl := Except.ok.inj (parse_list.symm.trans ho)
  obtain ⟨rfl, rfl, rfl⟩ := hready.unique hready'
  refine ⟨?_, fun path hpath => ?_, fun e he => ?_, fun q first _ hfirst hnone => ?_⟩
  · rw [Bytes.size_zeros]
    decide
  · obtain rfl : "l" = path := Option.some.inj hpath
    rw [target?_list_machineWith]
    decide
  · rw [List.mem_singleton.1 he, hplace]
    decide
  · rw [List.mem_singleton.1 (List.mem_of_find?_eq_some hfirst)] at hnone
    cases hnone

/-! ## An entry in front of the one that creates its file -/

/-- A run that loads nothing but empty files places every one of them. -/
theorem Ready.fill_of_empty (hready : Ready o t m p b)
    (hlong : layout.dataStart ≤ b.size - b.size % layout.sectorSize)
    (hcounted : b.size + 0x10000 * layout.sectorSize < Image.greatest)
    (hsources : ∀ e ∈ m.entries, t.target? (joinPath o.root e.source) ≠ some p)
    (hnames : ∀ e ∈ m.entries, e.name.Parsed)
    {k : Nat} (hk : k ≤ 512)
    (hloaded : (loaded ((quietly o.root).answers m.entries t)).map File.data =
      List.replicate k (Bytes.zeros 0)) :
    ∃ report w, (fill (imageDevice p b) layout m (sourcesUnder o.root)).start t =
        (.ok report, w) ∧ report.placed.size = k ∧
      LeftBy t o.root p m.entries m.entries w.state := by
  have hlength : (loaded ((quietly o.root).answers m.entries t)).length = k := by
    rw [← List.length_map (f := File.data), hloaded, List.length_replicate]
  have hempty : ∀ f ∈ loaded ((quietly o.root).answers m.entries t), f.data.size = 0 := by
    intro f hf
    have hmem := List.mem_map_of_mem (f := File.data) hf
    rw [hloaded] at hmem
    rw [List.eq_of_mem_replicate hmem, Bytes.size_zeros]
  have hfile := Tree.get?_of_findFile hready.image
  have hsize := size_wholeSectors layout.sectorSize b
  obtain ⟨r, w, r', w', _, _, done, hfill, hfill', -, hagree, hleft, -, hall⟩ := fill_leaves
    hfile (by omega) uncut_layout (accepted_wholeSectors hlong) hsources
  obtain ⟨vol, w₀, hmount⟩ :=
    exists_mount_wholeSectors (accepted_wholeSectors hlong) (by omega) t
  obtain ⟨report', w₁, hrun, hcount⟩ := fill_of_room (quietly o.root) hmount
    uncut_layout (checkDisk_wholeSectors (by decide) b) (by omega) (by decide) (by decide) hnames
    (fun f hf => by rw [hempty f hf]; decide) (fun i f hf => by
      obtain ⟨hi, -⟩ := List.getElem?_eq_some_iff.1 hf
      exact Layout.hasRoom_of_empty (by decide)
        (Nat.lt_of_lt_of_le hi (Nat.le_trans (hlength.trans_le hk) (by decide)))
        (hempty f (List.mem_of_getElem? hf)))
  rw [hfill', Prod.mk.injEq] at hrun
  obtain ⟨rfl, -⟩ := hrun
  cases hagree with
  | @report report _ hplaced =>
      obtain rfl := hall report rfl
      exact ⟨report, w, hfill, by rw [hplaced, hcount, hlength], hleft⟩

/-- A list of two names for one file; the second alone declares a placeholder. -/
def lateText : String :=
  "A x\nB x placeholder=0"

def lateManifest : Manifest :=
  ⟨[⟨1, ⟨.letterA, "x", none⟩⟩,
    ⟨2, ⟨⟨ShortName.field 8 ['B'], ShortName.field 3 []⟩, "x", some 0⟩⟩]⟩

/-- The machine with this list. -/
def lateTree : Tree :=
  machineWith lateText (Bytes.zeros 3000320)

theorem names_lateManifest : ∀ e ∈ lateManifest.entries, e.name.Parsed := by
  intro e he
  rcases List.mem_cons.1 he with rfl | he
  · exact ShortName.parsed_letterA
  · rw [List.mem_singleton.1 he]
    exact ⟨"B", rfl⟩

theorem source_lateManifest : ∀ e ∈ lateManifest.entries, e.source = "x" := by
  decide

theorem ready_lateTree : Ready { image := "d", manifest := some "l" } lateTree lateManifest
    ["srv", "d"] (Bytes.zeros 3000320) := by
  refine ready_machineWith ?_ (by decide) _
  cbv

theorem place_lateTree {e : Entry} (he : e ∈ lateManifest.entries) :
    lateTree.target? (joinPath "." e.source) = some ["srv", "x"] := by
  rw [source_lateManifest e he]
  exact target?_x_machineWith _ _

theorem sources_lateTree : ∀ e ∈ lateManifest.entries,
    lateTree.target? (joinPath "." e.source) ≠ some ["srv", "d"] := by
  intro e he
  rw [place_lateTree he]
  decide

theorem manifest_lateTree (path : String) (h : some "l" = some path) :
    lateTree.target? path ≠ some ["srv", "d"] := by
  obtain rfl := Option.some.inj h
  rw [lateTree, target?_list_machineWith]
  decide

theorem creation_lateTree :
    lateManifest.entries.findSome? (lateTree.creation? "." ["srv", "x"]) = some 0 := by
  have hplace : lateTree.target? (joinPath "." "x") = some ["srv", "x"] :=
    target?_x_machineWith _ _
  simp [lateManifest, Manifest.entries, Tree.creation?, hplace]

/-- The second entry alone has bytes, which it has created. -/
theorem loaded_lateTree : (loaded ((quietly ".").answers lateManifest.entries lateTree)).map
    File.data = List.replicate 1 (Bytes.zeros 0) := by
  have hplace := target?_x_machineWith lateText (Bytes.zeros 3000320)
  obtain ⟨reason, hA⟩ := loadUnder_of_missing (e := ⟨.letterA, "x", none⟩) hplace
    rfl rfl
  have hB := loadUnder_of_vacant
    (e := ⟨⟨ShortName.field 8 ['B'], ShortName.field 3 []⟩, "x", some 0⟩) hplace rfl rfl
  simp only [lateManifest, Manifest.entries, List.map_cons, List.map_nil, Loader.answers, quietly,
    lateTree, hA, hB]
  rfl

/-- Where the file is there, both entries have its bytes. -/
theorem loaded_lateManifest (hplace : t.target? (joinPath "." "x") = some ["srv", "x"])
    (hfile : t.get? ["srv", "x"] = some (.file (Bytes.zeros 0))) :
    (loaded ((quietly ".").answers lateManifest.entries t)).map File.data =
      List.replicate 2 (Bytes.zeros 0) := by
  have hA := loadUnder_of_found (e := ⟨.letterA, "x", none⟩) hplace hfile
  have hB := loadUnder_of_found
    (e := ⟨⟨ShortName.field 8 ['B'], ShortName.field 3 []⟩, "x", some 0⟩) hplace hfile
  simp only [lateManifest, Manifest.entries, List.map_cons, List.map_nil, Loader.answers, quietly,
    hA, hB]
  rfl

/-- The first run skips the entry in front, and the second finds its file and places it. -/
theorem run_lateTree :
    (run ["-i", "d", "-m", "l"] none lateTree).stdout = "Injected 1 file(s) into d\n" ∧
    (run ["-i", "d", "-m", "l"] none
      (run ["-i", "d", "-m", "l"] none lateTree).tree).stdout =
        "Injected 2 file(s) into d\n" := by
  have hready := ready_lateTree
  have hbytes : (Bytes.zeros 3000320).size = 3000320 := Bytes.size_zeros _
  obtain ⟨report, w, hfill, hcount, hleft⟩ := hready.fill_of_empty
    (by rw [hbytes]; decide) (by rw [hbytes]; decide) sources_lateTree names_lateManifest
    (by decide) loaded_lateTree
  obtain ⟨hstdout, htree⟩ := run_of_filled none parse_list hready hfill
  rw [hcount] at hstdout
  refine ⟨hstdout, ?_⟩
  rw [htree]
  -- the file is there now
  have hchanges := changes_of_fill (Tree.get?_of_findFile hready.image) hfill
  have hplace : w.state.target? (joinPath "." "x") = some ["srv", "x"] := by
    rw [hchanges.grown.target?_eq]
    exact target?_x_machineWith _ _
  have hfile : w.state.get? ["srv", "x"] = some (.file (Bytes.zeros 0)) := by
    rw [hleft.other _ (by decide), get?_after, creation_lateTree]
    rfl
  obtain ⟨b₁, hfile₁, hsize₁, -⟩ := hchanges.image
  have hready₁ := hready.again manifest_lateTree hchanges hfile₁
  obtain ⟨report₁, w₁, hfill₁, hcount₁, -⟩ := hready₁.fill_of_empty
    (by rw [hsize₁, hbytes]; decide) (by rw [hsize₁, hbytes]; decide)
    (fun e he => by rw [hchanges.grown.target?_eq]; exact sources_lateTree e he)
    names_lateManifest (by decide) (loaded_lateManifest hplace hfile)
  have hstdout₁ := (run_of_filled none parse_list hready₁ hfill₁).1
  rw [hcount₁] at hstdout₁
  exact hstdout₁

/-! ## A list that is the image -/

theorem Asks.built (h : Asks o t m) : m.Built := by
  cases h with
  | boot _ hm => exact .ofText hm
  | file _ _ hm => exact .ofText hm

/-- Filling an image leaves no text there. -/
theorem Ready.readText_of_fill (hready : Ready o t m p b)
    (hlong : layout.dataStart ≤ b.size - b.size % layout.sectorSize)
    (hcounted : b.size < Image.greatest)
    (hsources : ∀ e ∈ m.entries, t.target? (joinPath o.root e.source) ≠ some p)
    {r : Except VolumeError Report} {w : World Tree}
    (hfill : (fill (imageDevice p b) layout m (sourcesUnder o.root)).start t = (r, w))
    {path : String} (hpath : t.target? path = some p) :
    w.state.readText path = .error .badText := by
  have hfile := Tree.get?_of_findFile hready.image
  obtain ⟨_, _, r', w', _, _, _, hrun, hfill', hfiled, -⟩ :=
    fill_leaves hfile hcounted uncut_layout (accepted_wholeSectors hlong) hsources
  rw [imageDevice, hrun, Prod.mk.injEq] at hfill
  obtain ⟨rfl, rfl⟩ := hfill
  obtain ⟨vol, w₀, hmount⟩ :=
    exists_mount_wholeSectors (accepted_wholeSectors hlong) hcounted t
  obtain ⟨_, _, hrun', hno⟩ := fill_no_text (quietly o.root) hmount
    (by rw [size_wholeSectors]; omega) uncut_layout (by decide) (by decide) (by decide)
    hready.asks.built
  rw [hfill', Prod.mk.injEq] at hrun'
  obtain ⟨rfl, rfl⟩ := hrun'
  have hfound : Tree.findFile _ path = .ok (p, _) := Tree.findFile_eq_ok_iff.2
    ⟨((hfiled.grown.trans hfiled.beside).target?_eq path).trans hpath, hfiled.holds.file⟩
  rw [Tree.readText_eq, hfound]
  simp only [Except.bind, hno, Option.elim]

/-- A second run cannot read its list where the first has filled an image. -/
theorem run_of_own_list {arguments : List String} (setting : Option String)
    (hparse : Options.parse arguments = .ok o) (hready : Ready o t m p b)
    (hlong : layout.dataStart ≤ b.size - b.size % layout.sectorSize)
    (hcounted : b.size < Image.greatest)
    (hsources : ∀ e ∈ m.entries, t.target? (joinPath o.root e.source) ≠ some p)
    {path : String} (hlist : o.manifest = some path) (hpath : t.target? path = some p) :
    (run arguments setting (run arguments setting t).tree).code = 1 ∧
      (run arguments setting (run arguments setting t).tree).stdout = "" := by
  obtain ⟨r, hworks⟩ := works_of_parse (t := t) setting hparse
  obtain ⟨filled, w, hfill, htree, -⟩ := hworks.of_ready hready
  rw [htree]
  have hread := hready.readText_of_fill hlong hcounted hsources hfill hpath
  have hrefused : ∀ m' p' b', ¬ Ready o w.state m' p' b' := by
    intro m' p' b' hready'
    cases hready'.asks with
    | boot hnone _ => cases hnone.symm.trans hlist
    | file hsome hread' _ =>
        obtain rfl := Option.some.inj (hsome.symm.trans hlist)
        cases hread'.symm.trans hread
  rcases run_of_parse (t := w.state) setting hparse with
    ⟨count, hworks₂, -⟩ | ⟨message, -, hcode, hstdout⟩
  · obtain ⟨⟨_, hr⟩, -⟩ := hworks₂.of_blocked fun m' p' b' h => absurd h (hrefused m' p' b')
    cases hr
  · exact ⟨hcode, hstdout⟩

/-- A list of so many blanks. -/
def blanks (n : Nat) : String :=
  String.ofList (List.replicate n ' ')

theorem size_blanks (n : Nat) : (blanks n).toUTF8.size = n := by
  rw [blanks, String.toUTF8_eq_toByteArray, String.toByteArray_ofList, List.utf8Encode,
    List.size_toByteArray]
  induction n with
  | zero => rfl
  | succ n ih =>
      rw [List.replicate_succ, List.flatMap_cons, List.length_append, ih]
      exact Nat.add_comm 1 n

theorem lines_blanks (n : Nat) :
    Text.lines (List.replicate n ' ') = [List.replicate n ' '] := by
  induction n with
  | zero => rfl
  | succ n ih =>
      rw [Text.lines] at ih
      rw [List.replicate_succ, Text.lines, List.foldr_cons, ih]
      rfl

theorem fields_blanks (n : Nat) : Text.fields (List.replicate n ' ') = [] := by
  induction n with
  | zero => rw [List.replicate_zero, Text.fields]
  | succ n ih => rw [List.replicate_succ, Text.fields, if_pos (by decide), ih]

theorem ofText_blanks (n : Nat) : Manifest.ofText (blanks n) = .ok Manifest.empty := by
  have hline : Manifest.entryOfLine (List.replicate n ' ') = .ok none := by
    rw [Manifest.entryOfLine, List.takeWhile_replicate, if_pos (by decide), fields_blanks]
    rfl
  rw [blanks, Manifest.ofText, String.toList_ofList, lines_blanks, Manifest.readLines, hline]
  rfl

/-- A machine whose image is a list of so many blanks. -/
def blankTree (n : Nat) : Tree :=
  machineWith "" (blanks n).toUTF8

theorem parse_own_list :
    Options.parse ["-i", "d", "-m", "d"] = .ok { image := "d", manifest := some "d" } := by
  decide

theorem ready_blankTree (n : Nat) : Ready { image := "d", manifest := some "d" } (blankTree n)
    Manifest.empty ["srv", "d"] (blanks n).toUTF8 where
  asks := by
    have hread : (blankTree n).readText "d" = .ok (blanks n) := by
      rw [Tree.readText_eq, blankTree, findFile_image_machineWith]
      simp only [Except.bind, fromUTF8?_toUTF8, Option.elim]
    exact .file rfl hread (ofText_blanks n)
  placeholders := by decide
  image := findFile_image_machineWith _ _

/-- The first run places no file on an image that was its list, and the second fails. -/
theorem run_blankTree {n : Nat} (hlong : layout.dataStart ≤ n - n % layout.sectorSize)
    (hcounted : n + 0x10000 * layout.sectorSize < Image.greatest) :
    (run ["-i", "d", "-m", "d"] none (blankTree n)).stdout = "Injected 0 file(s) into d\n" ∧
    (run ["-i", "d", "-m", "d"] none
      (run ["-i", "d", "-m", "d"] none (blankTree n)).tree).stdout = "" := by
  have hready := ready_blankTree n
  rw [← size_blanks n] at hlong hcounted
  obtain ⟨report, w, hfill, hcount, -⟩ :=
    hready.fill_of_empty hlong hcounted nofun nofun (Nat.zero_le 512) rfl
  obtain ⟨hstdout, -⟩ := run_of_filled none parse_own_list hready hfill
  rw [hcount] at hstdout
  exact ⟨hstdout, (run_of_own_list none parse_own_list hready hlong (by omega) nofun rfl
    (target?_image_machineWith _ _)).2⟩

/-! ## The conditions -/

/-- No entry of the manifest leads to the image or to the list that it was read from. -/
def Apart (arguments : List String) (t : Tree) : Prop :=
  ∀ o m p b, Options.parse arguments = .ok o → Ready o t m p b →
    ∀ e ∈ m.entries, t.target? (joinPath o.root e.source) ≠ some p ∧
      ∀ path, o.manifest = some path →
        t.target? (joinPath o.root e.source) ≠ t.target? path

theorem apart_lateTree : Apart ["-i", "d", "-m", "l"] lateTree := by
  intro o m p b ho hready e he
  obtain rfl := Except.ok.inj (parse_list.symm.trans ho)
  obtain ⟨rfl, rfl, rfl⟩ := ready_lateTree.unique hready
  refine ⟨sources_lateTree e he, fun path hpath => ?_⟩
  obtain rfl : "l" = path := Option.some.inj hpath
  rw [place_lateTree he, lateTree, target?_list_machineWith]
  decide

theorem apart_blankTree (n : Nat) : Apart ["-i", "d", "-m", "d"] (blankTree n) := by
  intro o m p b ho hready e he
  obtain rfl := Except.ok.inj (parse_own_list.symm.trans ho)
  obtain ⟨rfl, -, -⟩ := (ready_blankTree n).unique hready
  cases he

/-- It is not enough that no entry leads to the image or to the list: the one machine has
a list of its own and an entry in front of the one that creates its file, and the other has
no entries, but a list that is the image. -/
theorem not_repeats_of_apart :
    (Apart ["-i", "d", "-m", "l"] lateTree ∧
      ¬ Repeats ["-i", "d", "-m", "l"] none lateTree) ∧
    Apart ["-i", "d", "-m", "d"] (blankTree 3000320) ∧
      ¬ Repeats ["-i", "d", "-m", "d"] none (blankTree 3000320) := by
  refine ⟨⟨apart_lateTree, fun h => ?_⟩, apart_blankTree 3000320, fun h => ?_⟩
  · have hstdout := h.stdout
    rw [run_lateTree.1, run_lateTree.2] at hstdout
    exact absurd hstdout (by decide)
  · obtain ⟨hfirst, hsecond⟩ := run_blankTree (n := 3000320) (by decide) (by decide)
    have hstdout := h.stdout
    rw [hfirst, hsecond] at hstdout
    exact absurd hstdout (by decide)

end Program

end FatImage
