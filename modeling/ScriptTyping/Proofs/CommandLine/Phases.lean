import ScriptTyping.CommandLine.Run
import ScriptTyping.Proofs.Diagnostic.Listening
import ScriptTyping.Proofs.Ron.RoundTrip

/-!
# The three phases of a run

A run over several files loads them all, checks their programs one after another and dumps their
tables.  The phases share one list of diagnostics and one output, and each of them can end the run.
This file says what comes out, in terms of what each file does on its own.

* `loadAll_eq_ok_iff` and `diagnostics_loadEntries` describe the first phase: it succeeds if all
  files can be loaded, and otherwise it tells about each one that cannot.
* `checkEach_append` describes the second phase, up to a point that all programs before have
  reached with a table.  What each program reports is what it reports on a log of its own
  (`diagnostics_checkEntries`).
* `dumpEach_spec` describes the third phase.  The bytes of all dumps
  together either fit into the output, or they are cut off where it is full.
-/

namespace ScriptTyping

/-! ## Output that may be cut off -/

namespace Sink

variable {s : Sink} {text : String} {bytes more : List UInt8}

/-- There is room for all of the bytes. -/
def Fits (s : Sink) (bytes : List UInt8) : Prop := ∀ n, s.room = some n → bytes.length ≤ n

/-- The part of the bytes that there is room for. -/
def fitting (s : Sink) (bytes : List UInt8) : List UInt8 :=
  match s.room with
  | none => bytes
  | some n => bytes.take n

/-- The sink after it has taken bytes for which it has room. -/
def after (s : Sink) (bytes : List UInt8) : Sink :=
  { s with taken := s.taken ++ bytes, room := s.room.map (· - bytes.length) }

/-- The bytes of a text. -/
def bytesOf (text : String) : List UInt8 := text.toUTF8.data.toList

lemma fitting_of_fits (h : s.Fits bytes) : s.fitting bytes = bytes := by
  cases hroom : s.room with
  | none => simp [fitting, hroom]
  | some n => simp [fitting, hroom, List.take_of_length_le (h n hroom)]

lemma write_of_fits (h : s.Fits (bytesOf text)) :
    s.write text = (.ok (), s.after (bytesOf text)) := by
  obtain ⟨taken, room, complaint⟩ := s
  cases room with
  | none => rfl
  | some n => exact if_pos (h n rfl)

lemma write_of_not_fits (h : ¬ s.Fits (bytesOf text)) :
    (s.write text).1 = .error s.complaint ∧
      (s.write text).2.taken = s.taken ++ s.fitting (bytesOf text) := by
  obtain ⟨taken, room, complaint⟩ := s
  cases room with
  | none => exact absurd nofun h
  | some n =>
      have hn : ¬ (bytesOf text).length ≤ n := fun hle => h fun m hm => by
        obtain rfl := Option.some.inj hm
        exact hle
      have hwrite : Sink.write ⟨taken, some n, complaint⟩ text =
          (.error complaint, ⟨taken ++ (bytesOf text).take n, some 0, complaint⟩) := if_neg hn
      rw [hwrite]
      exact ⟨rfl, rfl⟩

lemma fits_append_iff :
    s.Fits (bytes ++ more) ↔ s.Fits bytes ∧ (s.after bytes).Fits more := by
  obtain ⟨taken, room, complaint⟩ := s
  cases room with
  | none => simp [Fits, after]
  | some n =>
      simp only [Fits, after, Option.map_some, Option.some.injEq, forall_eq', List.length_append]
      omega

lemma fitting_append_of_fits (h : s.Fits bytes) :
    s.fitting (bytes ++ more) = bytes ++ (s.after bytes).fitting more := by
  obtain ⟨taken, room, complaint⟩ := s
  cases room with
  | none => rfl
  | some n =>
      have hn : bytes.length ≤ n := h n rfl
      simp [fitting, after, List.take_append, List.take_of_length_le hn]

lemma fitting_append_of_not_fits (h : ¬ s.Fits bytes) :
    s.fitting (bytes ++ more) = s.fitting bytes := by
  obtain ⟨taken, room, complaint⟩ := s
  cases room with
  | none => exact absurd nofun h
  | some n =>
      have hn : n ≤ bytes.length := by
        by_contra hlt
        exact h fun m hm => by
          obtain rfl := Option.some.inj hm
          omega
      simp [fitting, List.take_append_of_le_length hn]

end Sink

namespace CommandLine

variable {read : String → Except LoadError ByteArray} {o : Options}

/-! ## Transcripts -/

namespace Transcript

/-- The files whose programs were checked, in order. -/
def checked (t : Transcript) : List String :=
  t.filterMap fun
    | .happened (.checking path) => some path
    | _ => none

variable {t u : Transcript}

lemma diagnostics_append : (t ++ u).diagnostics = t.diagnostics ++ u.diagnostics :=
  List.filterMap_append

lemma checked_append : (t ++ u).checked = t.checked ++ u.checked := List.filterMap_append

lemma failed_iff :
    t.failed = true ↔ ∃ d ∈ t.diagnostics, d.level = .fatal ∨ d.level = .error := by
  simp only [failed, List.any_eq_true, Level.isError_iff]

end Transcript

/-! ## Loading -/

/-- What a run says about a file that cannot be loaded, if it cannot. -/
def loadFailure? (read : String → Except LoadError ByteArray) (path : String) :
    Option Diagnostic :=
  match loadFile read path with
  | .ok _ => none
  | .error e => some ⟨.error, ⟨none, "could not load file " ++ path⟩, some (.text e.message)⟩

/-- A file that holds a text is loaded by reading the text. -/
lemma loadFile_of_text {path text : String} (h : read path = .ok text.toUTF8) :
    loadFile read path = (Program.ofRon text).mapError LoadError.unreadable := by
  have hbytes : String.fromUTF8? text.toUTF8 = some text := dif_pos text.isValidUTF8
  rw [loadFile, h]
  simp only [loadProgram, bind, Except.bind, hbytes]

lemma loadFile_eq_ok {path text : String} {p : Program} (h : read path = .ok text.toUTF8)
    (hp : Program.ofRon text = .ok p) : loadFile read path = .ok p := by
  rw [loadFile_of_text h, hp]
  rfl

lemma exists_of_bind_eq_ok {ε α β : Type} {x : Except ε α} {f : α → Except ε β} {b : β}
    (h : x >>= f = .ok b) : ∃ a, x = .ok a ∧ f a = .ok b := by
  cases x with
  | error e => cases h
  | ok a => exact ⟨a, rfl, h⟩

/-- The programs are those of the files, one for each and in the same order. -/
def Loaded (read : String → Except LoadError ByteArray) (paths : List String)
    (ps : List (String × Program)) : Prop :=
  ps.map Prod.fst = paths ∧ ∀ q ∈ ps, loadFile read q.1 = .ok q.2

lemma Loaded.nil : Loaded read [] [] :=
  ⟨rfl, nofun⟩

lemma Loaded.cons {path : String} {p : Program} {paths : List String}
    {ps : List (String × Program)} (hp : loadFile read path = .ok p) (hps : Loaded read paths ps) :
    Loaded read (path :: paths) ((path, p) :: ps) :=
  ⟨by rw [List.map_cons, hps.1], List.forall_mem_cons.2 ⟨hp, hps.2⟩⟩

/-- **The first phase** yields the programs of the files, if each file has one. -/
lemma loadAll_eq_ok_iff {paths : List String} {ps : List (String × Program)} :
    loadAll read paths = .ok ps ↔ Loaded read paths ps := by
  induction paths generalizing ps with
  | nil =>
      constructor
      · intro h
        obtain rfl : [] = ps := Except.ok.inj h
        exact .nil
      · rintro ⟨hmap, -⟩
        rw [List.map_eq_nil_iff.1 hmap]
        rfl
  | cons path paths ih =>
      constructor
      · intro h
        rw [loadAll] at h
        obtain ⟨p, hp, h⟩ := exists_of_bind_eq_ok h
        obtain ⟨more, hmore, h⟩ := exists_of_bind_eq_ok h
        obtain rfl : (path, p) :: more = ps := Except.ok.inj h
        exact .cons hp (ih.1 hmore)
      · rintro ⟨hmap, hfiles⟩
        obtain ⟨q, more, rfl, rfl, hmore⟩ := List.map_eq_cons_iff.1 hmap
        rw [List.forall_mem_cons] at hfiles
        rw [loadAll, hfiles.1, ih.2 ⟨hmore, hfiles.2⟩]
        rfl

lemma exists_loadFile_eq_error {paths : List String} {e : LoadError}
    (h : loadAll read paths = .error e) : ∃ path ∈ paths, loadFile read path = .error e := by
  induction paths with
  | nil => cases h
  | cons path paths ih =>
      cases hfile : loadFile read path with
      | error e' =>
          rw [loadAll, hfile] at h
          obtain rfl : e' = e := Except.error.inj h
          exact ⟨path, List.mem_cons_self, hfile⟩
      | ok p =>
          cases hmore : loadAll read paths with
          | ok more =>
              rw [loadAll, hfile, hmore] at h
              cases h
          | error e' =>
              rw [loadAll, hfile, hmore] at h
              obtain rfl : e' = e := Except.error.inj h
              obtain ⟨path', hmem, hpath'⟩ := ih hmore
              exact ⟨path', List.mem_cons_of_mem _ hmem, hpath'⟩

/-- A file that cannot be loaded is the only obstacle. -/
lemma exists_loadFile_eq_error_iff {paths : List String} :
    (∃ path ∈ paths, ∃ e, loadFile read path = .error e) ↔ ¬ ∃ ps, Loaded read paths ps := by
  constructor
  · rintro ⟨path, hpath, e, he⟩ ⟨ps, hps⟩
    rw [← hps.1] at hpath
    obtain ⟨q, hq, rfl⟩ := List.mem_map.1 hpath
    rw [hps.2 q hq] at he
    cases he
  · intro h
    cases hload : loadAll read paths with
    | ok ps => exact absurd ⟨ps, loadAll_eq_ok_iff.1 hload⟩ h
    | error e =>
        obtain ⟨path, hpath, hfile⟩ := exists_loadFile_eq_error hload
        exact ⟨path, hpath, e, hfile⟩

/-- **The diagnostics of the first phase** tell about the files that cannot be loaded. -/
lemma diagnostics_loadEntries (read : String → Except LoadError ByteArray) (paths : List String) :
    (loadEntries read paths).diagnostics = paths.filterMap (loadFailure? read) := by
  rw [loadEntries, Transcript.diagnostics, List.filterMap_map]
  refine List.filterMap_congr fun path _ => ?_
  simp only [Function.comp_apply, loadFailure?]
  cases loadFile read path <;> rfl

lemma checked_loadEntries (read : String → Except LoadError ByteArray) (paths : List String) :
    (loadEntries read paths).checked = [] := by
  rw [loadEntries, Transcript.checked, List.filterMap_map, List.filterMap_eq_nil_iff]
  intro path _
  simp only [Function.comp_apply]
  cases loadFile read path <;> rfl

lemma loadFailure?_eq_none {path : String} {p : Program} (h : loadFile read path = .ok p) :
    loadFailure? read path = none := by
  rw [loadFailure?, h]

lemma Loaded.filterMap_loadFailure? {paths : List String} {ps : List (String × Program)}
    (h : Loaded read paths ps) : paths.filterMap (loadFailure? read) = [] := by
  rw [← h.1, List.filterMap_eq_nil_iff]
  intro path hpath
  obtain ⟨q, hq, rfl⟩ := List.mem_map.1 hpath
  exact loadFailure?_eq_none (h.2 q hq)

/-! ## Checking -/

/-- What a program reports when it is checked on a log of its own. -/
def reports (o : Options) (p : Program) : List Diagnostic := (Log.empty.check o p).1.entries

lemma reports_eq (o : Options) (p : Program) :
    reports o p = (p.check o).errors.map TypingError.diagnostic :=
  Log.empty.entries_addAll _

/-- **The diagnostics of the second phase** about a program are what it reports on its own. -/
lemma diagnostics_checkEntries (o : Options) (path : String) (p : Program) :
    (checkEntries o path p).diagnostics = reports o p := by
  have hnote : ∀ n : Note, Transcript.diagnostic? (noteEntry p.stmts.length n) =
      n.error?.map TypingError.diagnostic := by
    intro n
    cases n <;> rfl
  have hentries : (checkEntries o path p).diagnostics =
      ((p.check o).notes.map (noteEntry p.stmts.length)).filterMap Transcript.diagnostic? := rfl
  rw [reports_eq, hentries, Check.errors, List.filterMap_map, List.map_filterMap]
  exact List.filterMap_congr fun n _ => hnote n

lemma checked_checkEntries (o : Options) (path : String) (p : Program) :
    (checkEntries o path p).checked = [path] := by
  have hentries : (checkEntries o path p).checked =
      path :: Transcript.checked ((p.check o).notes.map (noteEntry p.stmts.length)) := rfl
  rw [hentries, Transcript.checked, List.filterMap_map]
  congr 1
  rw [List.filterMap_eq_nil_iff]
  intro n _
  cases n <;> rfl

/-- The entries about the checks of several programs. -/
def checksOf (o : Options) (ps : List (String × Program)) : Transcript :=
  ps.flatMap fun q => checkEntries o q.1 q.2

lemma diagnostics_checksOf (o : Options) (ps : List (String × Program)) :
    (checksOf o ps).diagnostics = ps.flatMap fun q => reports o q.2 := by
  induction ps with
  | nil => rfl
  | cons q ps ih =>
      have hcons : checksOf o (q :: ps) = checkEntries o q.1 q.2 ++ checksOf o ps := rfl
      rw [hcons, Transcript.diagnostics_append, diagnostics_checkEntries, ih]
      rfl

lemma checked_checksOf (o : Options) (ps : List (String × Program)) :
    (checksOf o ps).checked = ps.map Prod.fst := by
  induction ps with
  | nil => rfl
  | cons q ps ih =>
      have hcons : checksOf o (q :: ps) = checkEntries o q.1 q.2 ++ checksOf o ps := rfl
      rw [hcons, Transcript.checked_append, checked_checkEntries, ih]
      rfl

/-- The tables are those that the programs yield, one for each and in the same order. -/
def Yielded (o : Options) (ps : List (String × Program)) (ts : List (String × SymbolTable)) :
    Prop :=
  List.Forall₂ (fun q r => r.1 = q.1 ∧ (Log.empty.check o q.2).2 = .ok r.2) ps ts

/-- **The second phase gets past programs that yield tables**, and goes on with the others as if it
had begun with them. -/
lemma checkEach_append {ps : List (String × Program)} {ts : List (String × SymbolTable)}
    (rest : List (String × Program)) (h : Yielded o ps ts) :
    checkEach o (ps ++ rest) =
      (checksOf o ps ++ (checkEach o rest).1, (checkEach o rest).2.map (ts ++ ·)) := by
  induction h with
  | nil =>
      refine Prod.ext rfl ?_
      change (checkEach o rest).2 = (checkEach o rest).2.map id
      cases (checkEach o rest).2 <;> rfl
  | @cons q r ps ts hq _ ih =>
      obtain ⟨path, p⟩ := q
      obtain ⟨path', t⟩ := r
      obtain ⟨rfl, hresult⟩ := hq
      have hcheck : (p.check o).result = .ok t := hresult
      rw [List.cons_append, checkEach, hcheck]
      simp only [ih]
      refine Prod.ext (List.append_assoc _ _ _).symm ?_
      cases (checkEach o rest).2 <;> rfl

lemma checkEach_of_error {path : String} {p : Program} {v : Violation}
    (h : (Log.empty.check o p).2 = .error v) (rest : List (String × Program)) :
    checkEach o ((path, p) :: rest) =
      (checkEntries o path p ++ [.emitted v.diagnostic], .error v) := by
  have hcheck : (p.check o).result = .error v := h
  rw [checkEach, hcheck]

lemma exists_yielded {ps : List (String × Program)}
    (h : ∀ q ∈ ps, ∃ t, (Log.empty.check o q.2).2 = .ok t) : ∃ ts, Yielded o ps ts := by
  induction ps with
  | nil => exact ⟨[], .nil⟩
  | cons q ps ih =>
      rw [List.forall_mem_cons] at h
      obtain ⟨t, ht⟩ := h.1
      obtain ⟨ts, hts⟩ := ih h.2
      exact ⟨(q.1, t) :: ts, .cons ⟨rfl, ht⟩ hts⟩

/-! ## Dumping -/

/-- The bytes of the dumps of some tables. -/
def dumpBytes (format : DumpFormat) (ts : List (String × SymbolTable)) : List UInt8 :=
  ts.flatMap fun r => Sink.bytesOf (r.2.dump format r.1)

/-- **The third phase** writes the dumps, as far as there is room, and complains once if there is
not room for all of them. -/
lemma dumpEach_spec (format : DumpFormat) (ts : List (String × SymbolTable)) (out : Sink) :
    (dumpEach format ts out).2.taken = out.taken ++ out.fitting (dumpBytes format ts) ∧
      (out.Fits (dumpBytes format ts) → (dumpEach format ts out).1 = []) ∧
      (¬ out.Fits (dumpBytes format ts) →
        (dumpEach format ts out).1 = [.emitted (dumpDiagnostic out.complaint)]) := by
  induction ts generalizing out with
  | nil =>
      have hfits : out.Fits (dumpBytes format []) := fun n _ => Nat.zero_le n
      rw [Sink.fitting_of_fits hfits]
      exact ⟨(List.append_nil _).symm, fun _ => rfl, fun h => absurd hfits h⟩
  | cons r ts ih =>
      obtain ⟨path, t⟩ := r
      have hbytes : dumpBytes format ((path, t) :: ts) =
          Sink.bytesOf (t.dump format path) ++ dumpBytes format ts := rfl
      by_cases hfits : out.Fits (Sink.bytesOf (t.dump format path))
      · have hdump : dumpEach format ((path, t) :: ts) out =
            dumpEach format ts (out.after (Sink.bytesOf (t.dump format path))) := by
          rw [dumpEach, Sink.write_of_fits hfits]
        obtain ⟨htaken, hall, hpart⟩ := ih (out.after (Sink.bytesOf (t.dump format path)))
        rw [hdump, hbytes, Sink.fits_append_iff, Sink.fitting_append_of_fits hfits]
        refine ⟨?_, fun h => hall h.2, fun h => hpart fun h' => h ⟨hfits, h'⟩⟩
        rw [htaken, ← List.append_assoc]
        rfl
      · obtain ⟨hresult, htaken⟩ := Sink.write_of_not_fits hfits
        have hdump : dumpEach format ((path, t) :: ts) out =
            ([.emitted (dumpDiagnostic out.complaint)],
              (out.write (t.dump format path)).2) := by
          rw [dumpEach, ← Prod.eta (out.write (t.dump format path)), hresult]
        rw [hdump, hbytes, Sink.fits_append_iff, Sink.fitting_append_of_not_fits hfits]
        exact ⟨htaken, fun h => absurd h.1 hfits, fun _ => rfl⟩

/-! ## Whole runs -/

/-- What a run does with one of its files alone, with room for all output. -/
def alone (read : String → Except LoadError ByteArray) (c : Config) (path : String) : Outcome :=
  run read {} { c with files := [path] }

lemma Outcome.exitCode_eq_one_iff {r : Outcome} : r.exitCode = 1 ↔
    ∃ d ∈ r.transcript.diagnostics, d.level = .fatal ∨ d.level = .error := by
  rw [← Transcript.failed_iff, exitCode]
  by_cases h : r.transcript.failed = true <;> simp [h]

/-- A run fails if the last thing that it tells is an error. -/
lemma Outcome.exitCode_eq_one_of_last {r : Outcome} {ds : List Diagnostic} {d : Diagnostic}
    (h : r.transcript.diagnostics = ds ++ [d]) (hd : d.level = .fatal ∨ d.level = .error) :
    r.exitCode = 1 := by
  rw [exitCode_eq_one_iff, h]
  exact ⟨d, List.mem_append_right ds (List.mem_singleton_self d), hd⟩

lemma Outcome.exitCode_eq_zero_iff {r : Outcome} : r.exitCode = 0 ↔
    ¬ ∃ d ∈ r.transcript.diagnostics, d.level = .fatal ∨ d.level = .error := by
  rw [← Transcript.failed_iff, exitCode]
  by_cases h : r.transcript.failed = true <;> simp [h]

variable (out : Sink) {c : Config} {ps : List (String × Program)}
  {ts : List (String × SymbolTable)}

lemma run_of_unloadable {e : LoadError} (h : loadAll read c.files = .error e) :
    run read out c = ⟨loadEntries read c.files, out⟩ := by
  rw [run, h]

lemma run_of_violation {before after : List (String × Program)} {path : String} {p : Program}
    {v : Violation} (h : Loaded read c.files (before ++ (path, p) :: after))
    (hbefore : Yielded c.options before ts) (hp : (Log.empty.check c.options p).2 = .error v) :
    run read out c = ⟨loadEntries read c.files ++ (checksOf c.options before ++
      (checkEntries c.options path p ++ [.emitted v.diagnostic])), out⟩ := by
  rw [run, loadAll_eq_ok_iff.2 h]
  simp only [checkEach_append _ hbefore, checkEach_of_error hp]
  rfl

lemma run_of_yielded (h : Loaded read c.files ps) (hts : Yielded c.options ps ts) :
    run read out c = ⟨loadEntries read c.files ++ checksOf c.options ps ++
      (dumpEach c.format ts out).1, (dumpEach c.format ts out).2⟩ := by
  have hcheck : checkEach c.options ps = (checksOf c.options ps, .ok ts) := by
    have happend := checkEach_append [] hts
    rw [List.append_nil] at happend
    rw [happend]
    exact Prod.ext (List.append_nil _) (congrArg Except.ok (List.append_nil ts))
  rw [run, loadAll_eq_ok_iff.2 h]
  simp only [hcheck]

/-- A file on its own is dumped, and tells what its program reports. -/
lemma alone_spec {path : String} {p : Program} {t : SymbolTable}
    (hfile : loadFile read path = .ok p) (ht : (Log.empty.check c.options p).2 = .ok t) :
    (alone read c path).out.taken = Sink.bytesOf (t.dump c.format path) ∧
      (alone read c path).transcript.diagnostics = reports c.options p := by
  have hload : Loaded read [path] [(path, p)] := .cons hfile .nil
  have hyielded : Yielded c.options [(path, p)] [(path, t)] := .cons ⟨rfl, ht⟩ .nil
  have hrun := run_of_yielded {} (c := { c with files := [path] }) hload hyielded
  have hfits : ({} : Sink).Fits (dumpBytes c.format [(path, t)]) := nofun
  obtain ⟨htaken, hall, -⟩ := dumpEach_spec c.format [(path, t)] {}
  rw [Sink.fitting_of_fits hfits] at htaken
  have hloading : (loadEntries read [path]).diagnostics = [] := by
    rw [diagnostics_loadEntries, List.filterMap_cons_none (loadFailure?_eq_none hfile)]
    rfl
  rw [alone, hrun]
  constructor
  · rw [htaken]
    exact List.append_nil _
  · rw [hall hfits, List.append_nil, Transcript.diagnostics_append, hloading,
      diagnostics_checksOf]
    exact List.append_nil _

lemma flatMap_alone (hfiles : ∀ q ∈ ps, loadFile read q.1 = .ok q.2)
    (hts : Yielded c.options ps ts) :
    (ps.flatMap fun q => (alone read c q.1).out.taken) = dumpBytes c.format ts ∧
      (ps.flatMap fun q => (alone read c q.1).transcript.diagnostics) =
        ps.flatMap fun q => reports c.options q.2 := by
  induction hts with
  | nil => exact ⟨rfl, rfl⟩
  | @cons q r ps ts hq _ ih =>
      rw [List.forall_mem_cons] at hfiles
      obtain ⟨hpath, hresult⟩ := hq
      obtain ⟨htaken, hdiagnostics⟩ := alone_spec hfiles.1 hresult
      obtain ⟨ihtaken, ihdiagnostics⟩ := ih hfiles.2
      constructor
      · rw [List.flatMap_cons, htaken, ihtaken, ← hpath]
        rfl
      · rw [List.flatMap_cons, hdiagnostics, ihdiagnostics]
        rfl

/-! ## The three endings -/

/-- The run ended because files cannot be loaded. -/
structure EndsLoading (read : String → Except LoadError ByteArray) (out : Sink) (c : Config)
    (r : Outcome) : Prop where
  nothingWritten : r.out = out
  nothingChecked : r.transcript.checked = []
  /-- There is one error for each file that cannot be loaded, in the order of the files. -/
  told : r.transcript.diagnostics = c.files.filterMap (loadFailure? read)
  failed : r.exitCode = 1

/-- The run ended at a violation in the program of a file, after the programs `before`. -/
structure EndsChecking (out : Sink) (c : Config) (before : List (String × Program)) (path : String)
    (p : Program) (v : Violation) (r : Outcome) : Prop where
  nothingWritten : r.out = out
  checkedUpTo : r.transcript.checked = before.map Prod.fst ++ [path]
  /-- Each program tells what it reports on a log of its own. The last entry is fatal, and has its
  text, its place and its cause from the violation. -/
  told : r.transcript.diagnostics =
    before.flatMap (fun q => reports c.options q.2) ++ reports c.options p ++
      [⟨.fatal, ⟨some v.span, v.message⟩, some (.fault (.violation v))⟩]
  failed : r.exitCode = 1

/-- What the files write when each of them is run alone. -/
def dumpsAlone (read : String → Except LoadError ByteArray) (c : Config) : List UInt8 :=
  c.files.flatMap fun path => (alone read c path).out.taken

/-- What the files tell when each of them is run alone. -/
def toldAlone (read : String → Except LoadError ByteArray) (c : Config) : List Diagnostic :=
  c.files.flatMap fun path => (alone read c path).transcript.diagnostics

/-- The run came to its third phase. -/
structure EndsDumping (read : String → Except LoadError ByteArray) (out : Sink) (c : Config)
    (r : Outcome) : Prop where
  checkedAll : r.transcript.checked = c.files
  /-- The dumps are written one after another, until the output is full. -/
  written : r.out.taken = out.taken ++ out.fitting (dumpsAlone read c)
  told : out.Fits (dumpsAlone read c) → r.transcript.diagnostics = toldAlone read c
  /-- If the output was full too early, there is one error more, caused by what the output said. -/
  toldFull : ¬ out.Fits (dumpsAlone read c) →
    r.transcript.diagnostics = toldAlone read c ++
      [⟨.error, ⟨none, "could not dump the symbol table to stdout"⟩, some (.text out.complaint)⟩]
  failedFull : ¬ out.Fits (dumpsAlone read c) → r.exitCode = 1

lemma run_endsLoading {path : String} {e : LoadError} (hpath : path ∈ c.files)
    (hfile : loadFile read path = .error e) : EndsLoading read out c (run read out c) := by
  have hload : ∃ e', loadAll read c.files = .error e' := by
    cases hload : loadAll read c.files with
    | error e' => exact ⟨e', rfl⟩
    | ok ps =>
        have hnone := exists_loadFile_eq_error_iff.1 ⟨path, hpath, e, hfile⟩
        exact absurd ⟨ps, loadAll_eq_ok_iff.1 hload⟩ hnone
  obtain ⟨e', he'⟩ := hload
  have hrun : run read out c = ⟨loadEntries read c.files, out⟩ := run_of_unloadable out he'
  have htold : (run read out c).transcript.diagnostics = c.files.filterMap (loadFailure? read) := by
    rw [hrun, diagnostics_loadEntries]
  refine ⟨by rw [hrun], by rw [hrun, checked_loadEntries], htold, ?_⟩
  rw [Outcome.exitCode_eq_one_iff, htold]
  refine ⟨loadDiagnostic path e, List.mem_filterMap.2 ⟨path, hpath, ?_⟩, Or.inr rfl⟩
  rw [loadFailure?, hfile]
  rfl

lemma run_endsChecking {before after : List (String × Program)} {path : String} {p : Program}
    {v : Violation} (hloaded : Loaded read c.files (before ++ (path, p) :: after))
    (hbefore : ∀ q ∈ before, ∃ t, (Log.empty.check c.options q.2).2 = .ok t)
    (hp : (Log.empty.check c.options p).2 = .error v) :
    EndsChecking out c before path p v (run read out c) := by
  obtain ⟨ts, hts⟩ := exists_yielded hbefore
  have hrun := run_of_violation out hloaded hts hp
  have hloading : (loadEntries read c.files).diagnostics = [] := by
    rw [diagnostics_loadEntries, hloaded.filterMap_loadFailure?]
  have htold : (run read out c).transcript.diagnostics =
      before.flatMap (fun q => reports c.options q.2) ++ reports c.options p ++
        [⟨.fatal, ⟨some v.span, v.message⟩, some (.fault (.violation v))⟩] := by
    rw [hrun]
    simp only [Transcript.diagnostics_append, hloading, diagnostics_checksOf,
      diagnostics_checkEntries, List.nil_append, List.append_assoc]
    rfl
  refine ⟨by rw [hrun], ?_, htold, Outcome.exitCode_eq_one_of_last htold (Or.inl rfl)⟩
  rw [hrun]
  simp only [Transcript.checked_append, checked_loadEntries, checked_checksOf,
    checked_checkEntries, List.nil_append]
  rfl

lemma run_endsDumping (hloaded : Loaded read c.files ps) (hts : Yielded c.options ps ts) :
    EndsDumping read out c (run read out c) := by
  have hrun := run_of_yielded out hloaded hts
  obtain ⟨hdumps, htold⟩ := flatMap_alone hloaded.2 hts
  have hdumps' : dumpsAlone read c = dumpBytes c.format ts := by
    rw [← hdumps, dumpsAlone, ← hloaded.1, List.flatMap_map]
  have htold' : toldAlone read c =
      (loadEntries read c.files ++ checksOf c.options ps).diagnostics := by
    rw [Transcript.diagnostics_append, diagnostics_loadEntries, hloaded.filterMap_loadFailure?,
      diagnostics_checksOf, ← htold, toldAlone, ← hloaded.1, List.flatMap_map]
    rfl
  obtain ⟨htaken, hall, hpart⟩ := dumpEach_spec c.format ts out
  have hchecked : (dumpEach c.format ts out).1.checked = [] := by
    by_cases hfits : out.Fits (dumpBytes c.format ts)
    · rw [hall hfits]
      rfl
    · rw [hpart hfits]
      rfl
  have hfull : ¬ out.Fits (dumpsAlone read c) →
      (run read out c).transcript.diagnostics = toldAlone read c ++
        [⟨.error, ⟨none, "could not dump the symbol table to stdout"⟩,
          some (.text out.complaint)⟩] := by
    intro hfits
    rw [hdumps'] at hfits
    rw [hrun, hpart hfits, Transcript.diagnostics_append, htold']
    rfl
  refine ⟨?_, by rw [hrun, htaken, hdumps'], fun hfits => ?_, hfull,
    fun hfits => Outcome.exitCode_eq_one_of_last (hfull hfits) (Or.inr rfl)⟩
  · rw [hrun]
    simp only [Transcript.checked_append, checked_loadEntries, checked_checksOf, hchecked,
      List.nil_append, List.append_nil, hloaded.1]
  · rw [hdumps'] at hfits
    rw [hrun, hall hfits, List.append_nil, htold']

/-- **The law of a run.**

Let a run be over any files, with any output and any options.

* If some file cannot be loaded, nothing is checked or written.  There is one error for each such
  file, in the order of the files, and the run fails.
* Otherwise each file has a program.  If the check of one of them ends at a violation, take the
  first of these.  Nothing is written; the programs up to this one are checked, and none after it.
  The diagnostics are what each of them reports on a log of its own, and a last one, which is fatal
  and is built from the violation.  The run fails.
* Otherwise all programs are checked, and the output takes what it has room for of the dumps that
  the files have when each is run alone.  The diagnostics are those of the files alone.  If there
  was not room for all dumps, there is one error more and the run fails.
* The exit code is one if some diagnostic is fatal or an error, and zero if not. -/
theorem run_law (read : String → Except LoadError ByteArray) (out : Sink) (c : Config) :
    ((∃ path ∈ c.files, ∃ e, loadFile read path = .error e) →
      EndsLoading read out c (run read out c)) ∧
    ((¬ ∃ path ∈ c.files, ∃ e, loadFile read path = .error e) →
      ∃ ps, Loaded read c.files ps) ∧
    (∀ ps, Loaded read c.files ps →
      (∀ before path p after v, ps = before ++ (path, p) :: after →
        (∀ q ∈ before, ∃ t, (Log.empty.check c.options q.2).2 = .ok t) →
        (Log.empty.check c.options p).2 = .error v →
        EndsChecking out c before path p v (run read out c)) ∧
      ((∀ q ∈ ps, ∃ t, (Log.empty.check c.options q.2).2 = .ok t) →
        EndsDumping read out c (run read out c) ∧
        ∀ q ∈ ps, ∀ t, (Log.empty.check c.options q.2).2 = .ok t →
          (alone read c q.1).out.taken = (t.dump c.format q.1).toUTF8.data.toList ∧
          (alone read c q.1).transcript.diagnostics = reports c.options q.2)) ∧
    ((run read out c).exitCode = 1 ↔ ∃ d ∈ (run read out c).transcript.diagnostics,
      d.level = .fatal ∨ d.level = .error) ∧
    ((run read out c).exitCode = 0 ↔ ¬ ∃ d ∈ (run read out c).transcript.diagnostics,
      d.level = .fatal ∨ d.level = .error) := by
  refine ⟨?_, ?_, fun ps hps => ⟨?_, fun hall => ?_⟩, Outcome.exitCode_eq_one_iff,
    Outcome.exitCode_eq_zero_iff⟩
  · rintro ⟨path, hpath, e, he⟩
    exact run_endsLoading out hpath he
  · intro hgood
    rw [exists_loadFile_eq_error_iff, not_not] at hgood
    exact hgood
  · rintro before path p after v rfl hbefore hp
    exact run_endsChecking out hps hbefore hp
  · obtain ⟨ts, hts⟩ := exists_yielded hall
    exact ⟨run_endsDumping out hps hts, fun q hq t ht => alone_spec (hps.2 q hq) ht⟩

/-- A program that declares an integer `x`. -/
def declaresX : Program := ⟨[.decl ⟨⟨"x", .origin⟩, ⟨.int, .origin⟩, none, .origin⟩], .origin⟩

/-- A program that uses a name `y` that nothing establishes. -/
def usesY : Program := ⟨[.print (.term (.name ⟨"y", .origin⟩)) .origin], .origin⟩

/-- A program with a binary node that has no operator. -/
def lacksOperator : Program :=
  ⟨[.print (.binary (.term (.bool ⟨true, .origin⟩)) [] (.term (.bool ⟨true, .origin⟩)) .origin)
    .origin], .origin⟩

lemma ofRon_declaresX : Program.ofRon declaresX.compactText = .ok declaresX :=
  declaresX.gives_ofRon.ok (by decide)

lemma ofRon_usesY : Program.ofRon usesY.compactText = .ok usesY :=
  usesY.gives_ofRon.ok (by decide)

lemma ofRon_lacksOperator : Program.ofRon lacksOperator.compactText = .ok lacksOperator :=
  lacksOperator.gives_ofRon.ok (by decide)

/-- Three files with a program each. -/
def threeFiles (path : String) : Except LoadError ByteArray :=
  if path = "declares" then .ok declaresX.compactText.toUTF8
  else if path = "uses" then .ok usesY.compactText.toUTF8
  else if path = "lacks" then .ok lacksOperator.compactText.toUTF8
  else .error .notFound

lemma loadFile_declares : loadFile threeFiles "declares" = .ok declaresX :=
  loadFile_eq_ok rfl ofRon_declaresX

lemma loadFile_uses : loadFile threeFiles "uses" = .ok usesY := loadFile_eq_ok rfl ofRon_usesY

lemma loadFile_lacks : loadFile threeFiles "lacks" = .ok lacksOperator :=
  loadFile_eq_ok rfl ofRon_lacksOperator

/-- What is told about the name `y`. -/
lemma reports_usesY (o : Options) : reports o usesY =
    [⟨.error, ⟨some (.ofLine 1), "Unknown identifier: y at line 1"⟩,
      some (.fault (.typing (.unknownName ⟨"y", .ofLine 1⟩)))⟩] := by
  have hmessage : (TypingError.unknownName ⟨"y", .ofLine 1⟩).message =
      "Unknown identifier: y at line 1" := by decide
  rw [← hmessage]
  rfl

lemma alone_declares (files : List String) :
    (alone threeFiles ⟨files, .text, {}⟩ "declares").out.taken =
        "# declares\nx: int\n".toUTF8.data.toList ∧
      (alone threeFiles ⟨files, .text, {}⟩ "declares").transcript.diagnostics = [] := by
  obtain ⟨htaken, htold⟩ := alone_spec (c := ⟨files, .text, {}⟩) loadFile_declares rfl
  refine ⟨?_, htold⟩
  rw [htaken]
  dsimp only
  decide +kernel

lemma alone_uses (files : List String) :
    (alone threeFiles ⟨files, .text, {}⟩ "uses").out.taken = "# uses\n".toUTF8.data.toList ∧
      (alone threeFiles ⟨files, .text, {}⟩ "uses").transcript.diagnostics = reports {} usesY := by
  obtain ⟨htaken, htold⟩ := alone_spec (c := ⟨files, .text, {}⟩) loadFile_uses rfl
  refine ⟨?_, htold⟩
  rw [htaken]
  dsimp only
  decide +kernel

/-- What each of the three endings looks like. The last one is shown with an output that is soon
full, also for a program about which there is nothing else to tell. -/
theorem run_law_threeFiles :
    (run threeFiles {} ⟨["none", "declares", "no"], .ron, {}⟩).transcript.diagnostics =
        [⟨.error, ⟨none, "could not load file none"⟩,
          some (.text "No such file or directory (os error 2)")⟩,
        ⟨.error, ⟨none, "could not load file no"⟩,
          some (.text "No such file or directory (os error 2)")⟩] ∧
      (run threeFiles {} ⟨["uses", "lacks", "declares"], .ron, {}⟩).transcript.diagnostics =
        [⟨.error, ⟨some (.ofLine 1), "Unknown identifier: y at line 1"⟩,
          some (.fault (.typing (.unknownName ⟨"y", .ofLine 1⟩)))⟩,
        ⟨.fatal, ⟨some (.ofLine 1),
          "malformed tree: binary expression at line 1 has 0 operators, expected exactly 1"⟩,
          some (.fault (.violation (.operatorChain (.ofLine 1) 0)))⟩] ∧
      (run threeFiles ⟨[], some 13, "full"⟩ ⟨["uses", "declares"], .text, {}⟩).out.taken =
        "# uses\n# decl".toUTF8.data.toList ∧
      (run threeFiles ⟨[], some 13, "full"⟩
          ⟨["uses", "declares"], .text, {}⟩).transcript.diagnostics =
        [⟨.error, ⟨some (.ofLine 1), "Unknown identifier: y at line 1"⟩,
          some (.fault (.typing (.unknownName ⟨"y", .ofLine 1⟩)))⟩,
        ⟨.error, ⟨none, "could not dump the symbol table to stdout"⟩, some (.text "full")⟩] ∧
      (run threeFiles ⟨[], some 13, "full"⟩ ⟨["declares"], .text, {}⟩).transcript.diagnostics =
        [⟨.error, ⟨none, "could not dump the symbol table to stdout"⟩, some (.text "full")⟩] ∧
      (run threeFiles ⟨[], some 13, "full"⟩ ⟨["declares"], .text, {}⟩).exitCode = 1 := by
  refine ⟨?_, ?_, ?_⟩
  · have hends := (run_law threeFiles {} ⟨["none", "declares", "no"], .ron, {}⟩).1
      ⟨"none", List.mem_cons_self, .notFound, rfl⟩
    rw [hends.told, List.filterMap_cons, List.filterMap_cons,
      loadFailure?_eq_none loadFile_declares]
    rfl
  · have hloaded : Loaded threeFiles ["uses", "lacks", "declares"]
        [("uses", usesY), ("lacks", lacksOperator), ("declares", declaresX)] :=
      .cons loadFile_uses (.cons loadFile_lacks (.cons loadFile_declares .nil))
    have hends := ((run_law threeFiles {} ⟨["uses", "lacks", "declares"], .ron, {}⟩).2.2.1 _
      hloaded).1 [("uses", usesY)] "lacks" lacksOperator _ (.operatorChain .origin 0) rfl
      (List.forall_mem_singleton.2 ⟨_, rfl⟩) rfl
    have hmessage : (Violation.operatorChain (.ofLine 1) 0).message =
        "malformed tree: binary expression at line 1 has 0 operators, expected exactly 1" := by
      decide
    rw [hends.told, List.flatMap_cons, reports_usesY, ← hmessage]
    rfl
  · have hboth := ((run_law threeFiles ⟨[], some 13, "full"⟩
      ⟨["uses", "declares"], .text, {}⟩).2.2.1 [("uses", usesY), ("declares", declaresX)]
        (.cons loadFile_uses (.cons loadFile_declares .nil))).2
          (List.forall_mem_cons.2 ⟨⟨_, rfl⟩, List.forall_mem_singleton.2 ⟨_, rfl⟩⟩)
    have hone := ((run_law threeFiles ⟨[], some 13, "full"⟩
      ⟨["declares"], .text, {}⟩).2.2.1 [("declares", declaresX)]
        (.cons loadFile_declares .nil)).2 (List.forall_mem_singleton.2 ⟨_, rfl⟩)
    have hdumps : dumpsAlone threeFiles ⟨["uses", "declares"], .text, {}⟩ =
        "# uses\n# declares\nx: int\n".toUTF8.data.toList := by
      rw [dumpsAlone, List.flatMap_cons, List.flatMap_cons, (alone_uses _).1,
        (alone_declares _).1]
      decide +kernel
    have hfull : ¬ Sink.Fits ⟨[], some 13, "full"⟩
        (dumpsAlone threeFiles ⟨["uses", "declares"], .text, {}⟩) := by
      rw [hdumps]
      intro hfits
      exact absurd (hfits 13 rfl) (by decide)
    have hfullOne : ¬ Sink.Fits ⟨[], some 13, "full"⟩
        (dumpsAlone threeFiles ⟨["declares"], .text, {}⟩) := by
      rw [dumpsAlone, List.flatMap_singleton, (alone_declares _).1]
      intro hfits
      exact absurd (hfits 13 rfl) (by decide)
    refine ⟨?_, ?_, ?_, hone.1.failedFull hfullOne⟩
    · rw [hboth.1.written, hdumps]
      decide +kernel
    · rw [hboth.1.toldFull hfull, toldAlone, List.flatMap_cons, List.flatMap_cons,
        (alone_uses _).2, (alone_declares _).2, reports_usesY]
      rfl
    · rw [hone.1.toldFull hfullOne, toldAlone, List.flatMap_singleton, (alone_declares _).2]
      rfl

end CommandLine
end ScriptTyping
