import FleetWatch.Notes.Memory
import FleetWatch.Proofs.Time.FileTime

/-!
# The age of the overnight log

A digest tells the modification time of the overnight log twice, as a number and as a text. Both are
made of one instant, the number by counting its milliseconds and the text by its place in the
calendar. The text cuts the same part off as the number, so the two are the same time, also before
1970, where what is cut off does not lead toward zero.

## Main Definitions

* `MemoryDigest.overnightMember?` — a member of the overnight log in a digest
-/

namespace FleetWatch

namespace MemoryDigest

variable {disk : Disk} {sources : MemorySources} {state : FileState}

/-! ### When there is a digest -/

/-- Without an overnight log a digest tells no time. -/
theorem of_missing (today : Date) (missing : disk.state? sources.overnightLog = none) :
    ∃ digest, of disk sources today = .ok digest ∧ digest.overnight = none := by
  rw [of, missing]
  exact ⟨_, rfl, rfl⟩

/-- A digest tells the instant of the overnight log's time. -/
theorem of_toInstant? {modified : Instant} (today : Date)
    (found : disk.state? sources.overnightLog = some state)
    (inCalendar : state.modified.toInstant? = some modified) :
    ∃ digest, of disk sources today = .ok digest ∧ digest.overnight = some modified := by
  rw [of, found]
  simp only [modifiedInstant, inCalendar]
  exact ⟨_, rfl, rfl⟩

/-- There is no digest if no instant stands for the overnight log's time. -/
theorem of_toInstant?_eq_none (today : Date)
    (found : disk.state? sources.overnightLog = some state)
    (outside : state.modified.toInstant? = none) :
    of disk sources today = .error .timeOutOfRange := by
  rw [of, found]
  simp only [modifiedInstant, outside]
  rfl

/-! ### The two forms of a time -/

/-- A member of the overnight log in a digest. -/
def overnightMember? (digest : MemoryDigest) (name : String) : Option Json :=
  (digest.toJson.field? "overnightLog").bind (Json.field? name)

/-- The time of the overnight log as a number. -/
theorem overnightMember?_mtime (digest : MemoryDigest) :
    digest.overnightMember? "mtime" =
      some ((digest.overnight.map fun modified => .number (.integer modified.millis)).getD
        .null) := by
  cases overnight : digest.overnight <;>
    simp [overnightMember?, toJson, fields, Json.field?, Json.lookup, overnight]

/-- The time of the overnight log as a text. -/
theorem overnightMember?_mtimeIso (digest : MemoryDigest) :
    digest.overnightMember? "mtimeIso" = some (.ofInstant? digest.overnight) := by
  simp [overnightMember?, toJson, fields, Json.field?, Json.lookup]

/-- Either both forms are null or none is. -/
theorem overnightMember?_mtime_eq_null_iff (digest : MemoryDigest) :
    digest.overnightMember? "mtime" = some .null ↔
      digest.overnightMember? "mtimeIso" = some .null := by
  rw [overnightMember?_mtime, overnightMember?_mtimeIso]
  cases digest.overnight with
  | none => exact iff_of_true rfl rfl
  | some modified => simp [Json.ofInstant?, Json.ofText?]

/-- **The two forms of the overnight log's time agree.** In the years from 0 to 9999 the number is
the nanoseconds of the time in milliseconds, rounded down, and the text is read back as the instant
that lies as many milliseconds from the start of 1970, in no leap second. In any digest, one form is
null just if the other is. -/
theorem overnightMember?_agree (today : Date)
    (found : disk.state? sources.overnightLog = some state)
    (year : 0 ≤ state.modified.date.year ∧ state.modified.date.year ≤ 9999) :
    (∃ digest text t, of disk sources today = .ok digest ∧
      digest.overnightMember? "mtime" =
        some (.number (.integer (state.modified.nanos / 1000000))) ∧
      digest.overnightMember? "mtimeIso" = some (.text text) ∧
      Instant.read? text = some t ∧ t.nanos < 1000000000 ∧
      t.seconds * 1000000000 + t.nanos = state.modified.nanos / 1000000 * 1000000) ∧
    ∀ digest : MemoryDigest, digest.overnightMember? "mtime" = some .null ↔
      digest.overnightMember? "mtimeIso" = some .null := by
  refine ⟨?_, overnightMember?_mtime_eq_null_iff⟩
  have inCalendar : state.modified.InCalendar := ⟨by omega, by omega⟩
  obtain ⟨modified, instant⟩ :=
    Option.isSome_iff_exists.mp (FileTime.isSome_toInstant?_iff.mpr inCalendar)
  obtain ⟨noLeap, nanos⟩ := FileTime.toInstant?_eq_some_iff.mp instant
  obtain ⟨digest, read, overnight⟩ := of_toInstant? today found instant
  have plainYear : modified.hasPlainYear = true := by
    rw [Instant.hasPlainYear, FileTime.date_of_toInstant?_eq_some instant]
    simpa using year
  -- The text leaves out what is below a millisecond, and so it rounds down as the number does.
  have readBack : Instant.read? modified.iso = some modified.wholeMillis := by
    rw [Instant.read?_iso, if_pos plainYear]
  have millis : modified.millis = state.modified.nanos / 1000000 := by
    rw [Instant.millis]
    omega
  refine ⟨digest, modified.iso, modified.wholeMillis, read, ?_, ?_, readBack, ?_, ?_⟩
  · rw [overnightMember?_mtime, overnight, ← millis]
    rfl
  · rw [overnightMember?_mtimeIso, overnight]
    rfl
  · rw [Instant.wholeMillis_nanos]
    omega
  · rw [Instant.wholeMillis_seconds, Instant.wholeMillis_nanos]
    omega

/-- A log that was modified a millionth of a second before 1970. Both forms tell a whole
millisecond before. -/
theorem overnightMember?_agree_before_epoch :
    let sources := MemorySources.ofWorkspace (.ofString "/main")
    let today : Date := ⟨1970, 1, 1, by decide, by decide, by decide, by decide⟩
    let modified : FileTime := ⟨-1000, by decide, by decide⟩
    let disk : Disk :=
      { state? := fun path =>
          if path = .ofString "/main/overnight-log.md" then some ⟨.regular, modified⟩ else none
        read := fun _ => .error .notFound
        list? := fun _ => none }
    disk.state? sources.overnightLog = some ⟨.regular, modified⟩ ∧
      (0 ≤ modified.date.year ∧ modified.date.year ≤ 9999) ∧
      ∃ digest, of disk sources today = .ok digest ∧
        digest.overnightMember? "mtime" = some (.number (.integer (-1))) ∧
        digest.overnightMember? "mtimeIso" = some (.text "1969-12-31T23:59:59.999Z") ∧
        ∃ t, Instant.read? "1969-12-31T23:59:59.999Z" = some t ∧
          t.seconds * 1000000000 + t.nanos = -1000000 := by
  intro sources today modified disk
  have found : disk.state? sources.overnightLog = some ⟨.regular, modified⟩ := by decide +kernel
  have year : 0 ≤ modified.date.year ∧ modified.date.year ≤ 9999 := by decide +kernel
  obtain ⟨⟨digest, text, t, read, mtime, mtimeIso, readBack, -, nanos⟩, -⟩ :=
    overnightMember?_agree today found year
  let eve : Instant := ⟨-1, 999999000, by decide, by decide, by decide, by decide⟩
  have answer : of disk sources today = .ok ⟨today, none, none, some eve⟩ := by decide +kernel
  have iso : eve.iso = "1969-12-31T23:59:59.999Z" := by decide +kernel
  rw [answer] at read
  cases read
  rw [overnightMember?_mtimeIso] at mtimeIso
  obtain rfl : eve.iso = text := Json.text.inj (Option.some.inj mtimeIso)
  rw [iso] at readBack
  refine ⟨found, year, _, answer, mtime, ?_, t, readBack, nanos⟩
  rw [overnightMember?_mtimeIso, ← iso]
  rfl

end MemoryDigest

end FleetWatch
