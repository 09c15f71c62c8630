import Quadrature.Proofs.Files.Locate
import Quadrature.Proofs.Journal.Pairs
import Quadrature.Proofs.Session.Input

/-!
# The functions file in a session

What a session needs to know of a world is little: what is left in the input, and the content of the
functions file. Questions take from the input, saving an entry adds its record, and everything else
leaves both as they are, the log included, which has a file of its own.

* `Filed`: the functions file in a world, `Filed.meet`: **quiet requests keep it.**
* `Known`: the same together with what is known of the input, whatever that is.
* `Known.leads_append`, `Known.leads_list`, `Known.leads_newest`: what is saved and read.
* `Stands`: the same where the input is text, `Stands.leads_ask`: a question takes its first line.
-/

namespace Quadrature

open Text Journal Dialogue

/-- The functions file in a world. -/
structure Filed (file : String) (path : Path) (content : Option String) (w : World) : Prop where
  /-- The functions file can be written. -/
  located : w.folder.locate file true = .ok path
  /-- This is what it holds, if it is there. -/
  content_eq : w.folder.get? path = content.map String.toUTF8
  /-- The log goes to another file, if it goes to one. -/
  apart : ∀ level name place, w.sink = some ⟨level, some (name, place)⟩ →
    w.folder.locate name true ≠ .ok path

variable {file : String} {path : Path} {content : Option String} {rest : List String} {w : World}

namespace Filed

theorem congr (h : Filed file path content w) {w' : World} (hfolder : w'.folder = w.folder)
    (hsink : w'.sink = w.sink) : Filed file path content w' :=
  ⟨hfolder ▸ h.located, hfolder ▸ h.content_eq, hfolder ▸ hsink ▸ h.apart⟩

/-- **A log line leaves the functions file as it is.** -/
theorem logged (h : Filed file path content w) (line : Log.Line) :
    Filed file path content (w.logged line) := by
  obtain ⟨-, ⟨hfolder, hsink⟩ | ⟨level, name, place, hw, hfolder, hsink⟩⟩ := w.logged_cases line
  · exact h.congr hfolder hsink
  · have hname := h.apart level name place hw
    unfold World.overwrite at hfolder
    cases hlog : w.folder.locate name true with
    | error e =>
      rw [hlog] at hfolder
      dsimp only at hfolder
      refine ⟨hfolder ▸ h.located, hfolder ▸ h.content_eq, ?_⟩
      rw [hfolder, hsink]
      rintro level' name' place' heq
      cases heq
      exact hname
    | ok other =>
      rw [hlog] at hfolder hname
      dsimp only at hfolder
      have hother : other ≠ path := by
        rintro rfl
        exact hname rfl
      -- the other file is put where its name stands, so no name changes its meaning
      refine ⟨?_, ?_, ?_⟩
      · rw [hfolder, Folder.locate_put hlog]
        exact h.located
      · rw [hfolder, Folder.get?_put, if_neg hother]
        exact h.content_eq
      · rw [hfolder, hsink]
        rintro level' name' place' heq
        cases heq
        rw [ne_eq, Folder.locate_put hlog, hlog]
        exact hname

/-- **Quiet requests** leave the functions file as it is. -/
theorem meet {r : Request} (hr : r.IsQuiet) (h : Filed file path content w) :
    Filed file path content (World.meet r w).2 := by
  cases hr with
  | log line => exact h.logged line
  | write | complain | readFile | now | instant | measure => exact h.congr rfl rfl

/-- **Text at the end of the functions file.** -/
theorem append (h : Filed file path content w) (text : String) :
    (World.meet (.appendFile file text) w).1 = .ok () ∧
      (World.meet (.appendFile file text) w).2.input = w.input ∧
      Filed file path (some (content.getD "" ++ text))
        (World.meet (.appendFile file text) w).2 := by
  have hcontent : (content.map String.toUTF8).getD ByteArray.empty ++ text.toUTF8 =
      (content.getD "" ++ text).toUTF8 := by
    refine Eq.trans ?_ String.toByteArray_append.symm
    cases content <;> rfl
  have happend : w.folder.append file text.toUTF8 =
      .ok (w.folder.put path (content.getD "" ++ text).toUTF8) := by
    unfold Folder.append
    rw [h.located, ← hcontent, ← h.content_eq]
    rfl
  dsimp only [World.meet]
  rw [happend]
  refine ⟨rfl, rfl, ?_, ?_, ?_⟩
  · exact (Folder.locate_put h.located _ file path).2 h.located
  · exact (Folder.get?_put _ _ _ _).trans (if_pos rfl)
  · intro level name place hsink
    rw [ne_eq, Folder.locate_put h.located]
    exact h.apart level name place hsink

/-- What is read from the functions file. -/
theorem read (h : Filed file path content w) :
    w.folder.read file = content.elim (.error .notFound) fun text => .ok text.toUTF8 := by
  unfold Folder.read
  rw [Folder.locate_of_creating h.located]
  dsimp only [bind, Except.bind]
  rw [h.content_eq]
  cases content <;> rfl

end Filed

/-- The log is not written to this file. -/
def LogsApart (file : String) (w : World) : Prop := ∀ level name place path,
  w.sink = some ⟨level, some (name, place)⟩ → w.folder.locate file true = .ok path →
    w.folder.locate name true ≠ .ok path

/-- What is known of the functions file where it can be written. -/
theorem filed_of_read (hlocate : w.folder.locate file true = .ok path)
    (hread : w.folder.read file =
      content.elim (.error .notFound) fun text => .ok text.toUTF8)
    (hapart : LogsApart file w) : Filed file path content w where
  located := hlocate
  content_eq := by
    unfold Folder.read at hread
    rw [Folder.locate_of_creating hlocate] at hread
    dsimp only [bind, Except.bind] at hread
    cases hget : w.folder.get? path with
    | none =>
      rw [hget] at hread
      cases content with
      | none => rfl
      | some text => cases hread
    | some bytes =>
      rw [hget] at hread
      cases content with
      | none => cases hread
      | some text => exact congrArg some (Except.ok.inj hread)
  apart level name place hsink := hapart level name place path hsink hlocate

/-- An entry that is saved stands in a file that can be written. -/
theorem exists_path_of_append {e : Entry} {u : Unit}
    (h : (w.answer (append file e).run).1 = .ok u) :
    ∃ path, w.folder.locate file true = .ok path := by
  cases hlocate : w.folder.locate file true with
  | ok path => exact ⟨path, rfl⟩
  | error err =>
    have happend : (World.meet (.appendFile file (record e)) w).1 = .error err := by
      dsimp only [World.meet]
      unfold Folder.append
      rw [hlocate]
      rfl
    unfold append at h
    rw [ExceptT.run_bind, World.answer_bind] at h
    have hrequest : (w.answer (ExceptT.mk (request (.appendFile file (record e)))).run).1 =
        .error err := happend
    rw [hrequest] at h
    cases h

/-! ### The file and the input -/

/-- What is known of the input, and the functions file in a world. -/
structure Known (I : List UInt8 → Prop) (file : String) (path : Path) (content : Option String)
    (w : World) : Prop where
  input : I w.input
  filed : Filed file path content w

/-- The text of a file. -/
theorem World.answer_readText (w : World) (file : String) :
    w.answer (readText file).run = (w.folder.read file >>= decode, w) := by
  unfold readText
  rw [ExceptT.run_bind, World.answer_bind]
  have hrequest : w.answer (ExceptT.mk (request (.readFile file))).run =
      (w.folder.read file, w) := rfl
  rw [hrequest]
  cases w.folder.read file <;> rfl

namespace Known

variable {I : List UInt8 → Prop}

theorem logged (h : Known I file path content w) (line : Log.Line) :
    Known I file path content (w.logged line) where
  input := (w.logged_cases line).1 ▸ h.input
  filed := h.filed.logged line

/-- **Quiet requests** leave the input and the functions file as they are. -/
theorem meet {r : Request} (hr : r.IsQuiet) (h : Known I file path content w) :
    Known I file path content (World.meet r w).2 where
  input := World.meet_input hr w ▸ h.input
  filed := h.filed.meet hr

theorem leads_quiet {α : Type} {d : Dialogue α} (hd : Quiet d) :
    d.Leads (Known I file path content) fun _ => Known I file path content :=
  hd.leads fun _ _ hr h => h.meet hr

theorem leads_write (text : String) : (write text).Leads (Known I file path content)
    fun r w => r = () ∧ Known I file path content w :=
  fun _ h => ⟨rfl, h.meet (.write text)⟩

/-- **An entry that is saved** is a record at the end of the functions file. -/
theorem leads_append (e : Entry) :
    (append file e).run.Leads (Known I file path content) fun r w =>
      r = .ok () ∧ Known I file path (some (content.getD "" ++ record e)) w := by
  refine Leads.run_bind_ok (a := ())
    (J := Known I file path (some (content.getD "" ++ record e))) ?_ ?_
  · intro w h
    obtain ⟨hok, hinput, hfiled⟩ := h.filed.append (record e)
    exact ⟨hok, hinput ▸ h.input, hfiled⟩
  · intro w h
    exact ⟨rfl, h.logged _⟩

theorem leads_contents : (contents file).run.Leads (Known I file path content) fun r w =>
    r = content.elim (.error .notFound) .ok ∧ Known I file path content w := by
  intro w h
  have hanswer := w.answer_readText file
  rw [h.filed.read] at hanswer
  unfold contents
  rw [hanswer]
  refine ⟨?_, h⟩
  cases content with
  | none => rfl
  | some text => exact decode_toUTF8 text

/-- **The entries** of the functions file. -/
theorem leads_list : (list file).run.Leads (Known I file path content) fun r w =>
    r = content.elim (.error .notFound) (fun text => .ok (entries text)) ∧
      Known I file path content w := by
  unfold list
  rw [ExceptT.run_bind]
  refine leads_contents.bind ?_
  rintro r w ⟨rfl, h⟩
  cases content with
  | none => exact ⟨rfl, h⟩
  | some text =>
    dsimp only [Option.elim]
    split
    · exact ⟨rfl, h.logged _⟩
    · exact ⟨rfl, h⟩

/-- **The newest entry** of the functions file. -/
theorem leads_newest : (newest file).run.Leads (Known I file path content) fun r w =>
    r = content.elim (.error .notFound) (fun text => .ok (last? text)) ∧
      Known I file path content w := by
  unfold newest
  rw [ExceptT.run_bind]
  refine leads_contents.bind ?_
  rintro r w ⟨rfl, h⟩
  cases content with
  | none => exact ⟨rfl, h⟩
  | some text =>
    dsimp only [Option.elim]
    split
    · exact ⟨rfl, h.logged _⟩
    · exact ⟨rfl, h⟩

/-- An entry takes from the input what its question takes, and leaves the file as it is. -/
theorem leads_integrateEntry {s : Settings} {J : List UInt8 → Prop}
    {answer : Except FileError (Option String)}
    (hask : (ask refinementQuestion).run.Leads (Known I file path content) fun r w =>
      r = answer ∧ Known J file path content w) (e : Entry) :
    (integrateEntry s e).run.Leads (Known I file path content)
      fun _ => Known J file path content := by
  unfold integrateEntry
  rw [ExceptT.run_bind]
  refine (leads_onFile hask).bind ?_
  rintro r w ⟨rfl, h⟩
  rcases answer with e | _ | answer
  · exact h
  · exact h
  · refine leads_quiet ?_ w h
    refine .run_bind (quiet_check _ _) fun refinement => ?_
    refine .run_bind (quiet_integrateText _ _ _ _) fun report => ?_
    exact quiet_say (.request (.write _))

end Known

/-! ### An input that is text -/

/-- The functions file and the rest of the input in a world: the input is text, and these are its
lines. -/
abbrev Stands (file : String) (path : Path) (content : Option String) (rest : List String) :
    World → Prop :=
  Known (fun input => ∃ cs, input = bytes cs ∧ answers cs = rest) file path content

/-- The answers are lines. -/
theorem Stands.notMem (h : Stands file path content rest w) {answer : String} (ha : answer ∈ rest) :
    '\n' ∉ answer.toList := by
  obtain ⟨cs, -, rfl⟩ := h.input
  exact notMem_of_mem_answers ha

/-- **A question takes the first line** that is left. -/
theorem Stands.leads_ask (question : String) :
    (ask question).run.Leads (Stands file path content rest)
      fun r w => r = .ok rest.head? ∧ Stands file path content rest.tail w := by
  intro w h
  obtain ⟨cs, hcs, hanswers⟩ := h.input
  have hfiled := h.filed
  by_cases hnil : cs = []
  · -- the end of the input
    subst hnil
    rw [World.answer_ask_end question hcs]
    subst hanswers
    exact ⟨rfl, h.input, hfiled.congr rfl rfl⟩
  · obtain ⟨line, more, hnext, hline⟩ := World.nextLine_bytes hnil
    have hinput : w.input ≠ [] := hcs ▸ bytes_ne_nil hnil
    rw [World.answer_ask question hinput, hcs, hnext, packed_bytes, decode_toUTF8, ← hanswers,
      hline]
    refine ⟨?_, ⟨more, rfl, rfl⟩, hfiled.congr rfl rfl⟩
    change Except.ok (some (trimmed (String.ofList line))) = _
    rw [trimmed, String.toList_ofList]
    rfl

end Quadrature
