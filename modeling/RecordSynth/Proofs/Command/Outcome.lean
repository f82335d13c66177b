import RecordSynth.Proofs.Command.Run
/-!
# What commands come to

A command loads what it needs from the disk before it writes anything, so there are three ways for a
run to go: something cannot be loaded, and nothing is written; a file is refused, and those in front of
it have been written; or all files are written: `GenerateRequest.run_course`. A dry run comes to what
loading comes to, and names the files of a real run: `GenerateRequest.dryRun_foretells`.
-/

namespace RecordSynth

theorem InspectRequest.comesTo_dump {σ : Type} {d : Disk σ} {q : InspectRequest} {u : InUse σ}
    {schema : Schema} {settings : RunSettings} {pass : Pass Id}
    (loads : q.inputs.Loads (d.read u.state) schema settings pass) :
    ComesTo (q.dump d.host) u
      (.ok ((pass.run schema.tables : PassOutput).toJson.document q.format)) u := by
  refine Inputs.comesTo_of_loads loads ?_
  intro running gives
  exact .bind (.reported gives u) (.done _ u)

/-! ## Generating -/

theorem PassOutput.map_fst_files (o : PassOutput) (out : String) :
    (o.files out).map (·.1) = o.artifacts.map (·.path out) := by
  rw [files, List.map_map]
  rfl

/-- Each path is written with the source of the artifact that it is the path of. -/
theorem PassOutput.files_eq_zip (o : PassOutput) (out : String) :
    o.files out = (o.artifacts.map (·.path out)).zip (o.artifacts.map (·.declaration.source)) := by
  rw [files, List.zip_map']

namespace GenerateRequest

variable {σ : Type} {d : Disk σ} {r : GenerateRequest} {u : InUse σ}

theorem comesTo_run_of_refused {e : Error} (refused : r.inputs.Refused (d.read u.state) e) :
    ComesTo (r.run d.host) u (.error e) u :=
  Inputs.comesTo_of_refused refused _

section

variable {schema : Schema} {settings : RunSettings} {pass : Pass Id}
  (loads : r.inputs.Loads (d.read u.state) schema settings pass)

include loads

/-- A dry run writes nothing and gives the paths of the files. -/
theorem comesTo_run_of_dry (dry : r.dryRun = true) :
    ComesTo (r.run d.host) u (.ok (((pass.run schema.tables).files r.out).map (·.1))) u := by
  refine Inputs.comesTo_of_loads loads ?_
  intro running gives
  refine .bind (Disk.comesTo_print _) (.bind (.reported gives u) ?_)
  refine .bind (Disk.comesTo_printAll _) ?_
  dsimp only
  rw [if_pos dry]
  exact .bind (Disk.comesTo_printAll _) (.bind (Disk.comesTo_print _) (.done _ u))

/-- A real run writes the files: if all are written it gives their paths, and if not the error. -/
theorem comesTo_run_of_real (real : r.dryRun = false) {answer : Except Error Unit} {last : InUse σ}
    (wrote : ComesTo (d.host.writeAll ((pass.run schema.tables).files r.out)) u answer last) :
    ComesTo (r.run d.host) u
      (answer.map fun _ => ((pass.run schema.tables).files r.out).map (·.1)) last := by
  refine Inputs.comesTo_of_loads loads ?_
  intro running gives
  refine .bind (Disk.comesTo_print _) (.bind (.reported gives u) ?_)
  refine .bind (Disk.comesTo_printAll _) ?_
  dsimp only
  rw [if_neg (by simp [real])]
  cases answer with
  | error e => exact .bind_error wrote _
  | ok =>
    exact .bind wrote (.bind (Disk.comesTo_print _) (.done _ last))

end

/-- A dry run fails just if something is refused. -/
theorem error_iff_of_dry (dry : r.dryRun = true) {result : Except Error (List String)}
    {last : InUse σ} (comes : ComesTo (r.run d.host) u result last) (e : Error) :
    result = .error e ↔ r.inputs.Refused (d.read u.state) e := by
  constructor
  · rintro rfl
    rcases Inputs.refused_or_loads (d.read u.state) r.inputs with ⟨e', refused⟩ | ⟨_, _, _, loads⟩
    · obtain ⟨same, -⟩ := comes.unique (comesTo_run_of_refused refused)
      cases same
      exact refused
    · obtain ⟨same, -⟩ := comes.unique (comesTo_run_of_dry loads dry)
      cases same
  · intro refused
    exact (comes.unique (comesTo_run_of_refused refused)).1

/-- The ways for a run that writes to go: something cannot be loaded, and nothing is written; a file
is refused, and the writes end with it; or all files are written, and their paths are given. -/
inductive Course (d : Disk σ) (r : GenerateRequest) (state : σ) :
    Except Error (List String) → InUse σ → Prop
  | refused {e : Error} (refused : r.inputs.Refused (d.read state) e) :
    Course d r state (.error e) { state }
  | stopped {schema : Schema} {settings : RunSettings} {pass : Pass Id}
    {before : List (String × String)} {path text : String} {e : Error} {left : σ}
    (loads : r.inputs.Loads (d.read state) schema settings pass)
    (refuses : d.Refuses state ((pass.run schema.tables).files r.out) before path text e left) :
    Course d r state (.error e) { state := left, writes := before ++ [(path, text)] }
  | finished {schema : Schema} {settings : RunSettings} {pass : Pass Id} {reached : σ}
    (loads : r.inputs.Loads (d.read state) schema settings pass)
    (taken : d.Takes state ((pass.run schema.tables).files r.out) reached) :
    Course d r state (.ok (((pass.run schema.tables).files r.out).map (·.1)))
      { state := reached, writes := (pass.run schema.tables).files r.out }

theorem exists_course (d : Disk σ) (r : GenerateRequest) (state : σ) :
    ∃ result last, Course d r state result last := by
  rcases Inputs.refused_or_loads (d.read state) r.inputs with ⟨e, first⟩ | ⟨_, _, pass, loads⟩
  · exact ⟨_, _, .refused first⟩
  · rcases d.takes_or_refuses state ((pass.run _).files r.out) with
      ⟨_, taken⟩ | ⟨_, _, _, _, _, refuses⟩
    · exact ⟨_, _, .finished loads taken⟩
    · exact ⟨_, _, .stopped loads refuses⟩

theorem Course.comesTo {state : σ} {result : Except Error (List String)} {last : InUse σ}
    (course : Course d r state result last) (real : r.dryRun = false) :
    ComesTo (r.run d.host) { state } result last := by
  cases course with
  | refused first => exact comesTo_run_of_refused first
  | stopped loads refuses =>
    exact comesTo_run_of_real loads real (Disk.comesTo_writeAll_of_refuses refuses)
  | finished loads taken => exact comesTo_run_of_real loads real (Disk.comesTo_writeAll taken)

/-- Every run that writes comes to something, and to what one of its ways leads to: where the schema,
the settings document or the settings of the service are refused, the run ends with the first error
about them and without a write; where the disk refuses a file, the writes are the files up to that
one, in order and with their contents, and the run ends with the error of the disk; paths are given
just if every file has been written. -/
theorem run_course (real : r.dryRun = false) (state : σ) :
    (∃ result last, ComesTo (r.run d.host) { state } result last) ∧
      ∀ result last, ComesTo (r.run d.host) { state } result last ↔
        Course d r state result last := by
  obtain ⟨result, last, course⟩ := exists_course d r state
  have reached := course.comesTo real
  refine ⟨⟨result, last, reached⟩, ?_⟩
  intro result' last'
  constructor
  · intro comes
    obtain ⟨rfl, rfl⟩ := reached.unique comes
    exact course
  · intro course'
    exact course'.comesTo real

/-- A disk with room for one file: of the three artifacts of a table the second is refused, and the
third is not tried. -/
theorem run_course_full :
    let source := "\x7b\"tables\":[\x7b\"name\":\"u\",\"recordType\":\"a.User\"\x7d]\x7d"
    let d : Disk Nat :=
      { read := fun _ _ => .ok source
        write := fun room path _ =>
          if room = 0 then (.error (.storage path), room) else (.ok (), room - 1) }
    let r : GenerateRequest :=
      { inputs :=
          { schema := "schema.json"
            serviceProperties := [("targetProject", "service"), ("targetPackage", "app"),
              ("basicService", "base.Basic"), ("basicServiceImpl", "base.BasicImpl")] }
        out := "" }
    r.dryRun = false ∧ ∃ last,
      ComesTo (r.run d.host) { state := 1 } (.error (.storage "service/app/UserService.java"))
          last ∧
        last.writes.map (·.1) = ["src/main/java/a/User.java", "service/app/UserService.java"] := by
  intro source d r
  let user : Table :=
    { name := "u"
      recordType := .ofName { scope := [⟨"a", by decide⟩], simple := ⟨"User", by decide⟩ } }
  let settings : RunSettings := ({} : RunSettings).assign r.inputs.serviceProperties []
  let base (simple : Identifier) : TypeExpr :=
    .ofName { scope := [⟨"base", by decide⟩], simple }
  let service : ServiceSettings :=
    { targetProject := some "service"
      targetPackage := some ⟨[⟨"app", by decide⟩], by decide⟩
      basicService := some (base ⟨"Basic", by decide⟩)
      basicServiceImpl := some (base ⟨"BasicImpl", by decide⟩) }
  have json : DocumentFormat.ofPath r.inputs.schema = .json := by decide +kernel
  have parsed : Schema.parse .json source = .ok { tables := [user] } := by cbv
  have read : ServiceSettings.ofProperties settings.service = .ok service := by cbv
  obtain ⟨pass, made⟩ : ∃ pass : Pass Id, settings.pass = .ok pass := by
    rw [RunSettings.pass, read]
    exact ⟨_, rfl⟩
  have loads : r.inputs.Loads (d.read 1) { tables := [user] } settings pass :=
    ⟨⟨source, rfl, json ▸ parsed⟩, .assigned rfl, made⟩
  have listed : (settings.artifacts service [user]).map (·.path r.out) =
      ["src/main/java/a/User.java", "service/app/UserService.java",
        "service/app/impl/UserServiceImpl.java"] := by decide +kernel
  obtain ⟨record, others, artifacts, recordPath, behind⟩ := List.map_eq_cons_iff.1 listed
  obtain ⟨interface, rest, rfl, interfacePath, -⟩ := List.map_eq_cons_iff.1 behind
  have refuses : d.Refuses 1 ((pass.run [user] : PassOutput).files r.out)
      [(record.path r.out, record.declaration.source)] (interface.path r.out)
      interface.declaration.source (.storage (interface.path r.out)) 0 := by
    rw [RunSettings.run_eq made read, artifacts]
    exact ⟨⟨_, rfl⟩, 0, .cons rfl (.nil 0), rfl⟩
  have comes := ((run_course rfl 1).2 _ _).2 (.stopped loads refuses)
  rw [interfacePath] at comes
  refine ⟨rfl, _, comes, ?_⟩
  simp only [List.map_append, List.map_singleton, recordPath]
  rfl

/-- A dry run leaves the disk alone. It ends with an error just if something is refused that has to be
loaded, and a real run then ends with the same error. The paths that it gives are those of the
artifacts, and a real run on a disk that takes all files gives the same paths and writes to them the
sources of the artifacts, one after the other. A dump of the same inputs shows as many artifacts. -/
theorem dryRun_foretells (d : Disk σ) (r : GenerateRequest) (state : σ) :
    let start : InUse σ := { state }
    let dry : GenerateRequest := { r with dryRun := true }
    let real : GenerateRequest := { r with dryRun := false }
    ∃ result, ComesTo (dry.run d.host) start result start ∧
      (∀ e, result = .error e ↔ r.inputs.Refused (d.read state) e) ∧
      (∀ e, result = .error e → ComesTo (real.run d.host) start (.error e) start) ∧
      ∀ paths, result = .ok paths → ∃ schema settings pass,
        r.inputs.Loads (d.read state) schema settings pass ∧
          let artifacts := (pass.run schema.tables : PassOutput).artifacts
          paths = artifacts.map (·.path r.out) ∧
          ((∀ s path text, (d.write s path text).1 = .ok ()) →
            ∃ last, ComesTo (real.run d.host) start (.ok paths) last ∧
              last.writes = paths.zip (artifacts.map (·.declaration.source))) ∧
          ∀ q : InspectRequest, q.inputs = r.inputs → ∃ shown items,
            ComesTo (q.dump d.host) start (.ok (Json.document q.format shown)) start ∧
              shown.member? "artifacts" = some (.array items) ∧ items.length = paths.length := by
  intro start dry real
  rcases Inputs.refused_or_loads (d.read state) r.inputs with
    ⟨e, refused⟩ | ⟨schema, settings, pass, loads⟩
  · have stopped : ComesTo (dry.run d.host) start (.error e) start :=
      comesTo_run_of_refused refused
    refine ⟨.error e, stopped, error_iff_of_dry rfl stopped, ?_, nofun⟩
    rintro _ ⟨⟩
    exact comesTo_run_of_refused refused
  · have named : ComesTo (dry.run d.host) start
        (.ok (((pass.run schema.tables).files r.out).map (·.1))) start :=
      comesTo_run_of_dry loads rfl
    refine ⟨_, named, error_iff_of_dry rfl named, nofun, ?_⟩
    rintro _ ⟨⟩
    refine ⟨schema, settings, pass, loads, PassOutput.map_fst_files _ r.out, ?_, ?_⟩
    · intro willing
      obtain ⟨reached, taken⟩ := d.takes_of_willing willing state _
      have course : Course d real state _ _ := .finished loads taken
      refine ⟨_, course.comesTo rfl, ?_⟩
      rw [PassOutput.map_fst_files]
      exact PassOutput.files_eq_zip _ r.out
    · intro q same
      refine ⟨(pass.run schema.tables : PassOutput).toJson, _,
        InspectRequest.comesTo_dump (same ▸ loads), rfl, ?_⟩
      simp only [PassOutput.map_fst_files, List.length_map]

end GenerateRequest

end RecordSynth
