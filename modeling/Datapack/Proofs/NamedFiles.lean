import Datapack.Proofs.CommandLine.ExitStatus
import Datapack.Proofs.Ledger.Calls
import Datapack.Proofs.PathUris

/-! Files behind their uris. Diagnostics are kept under the uri of the file that the compiler names,
and the path is made again of the uri wherever the file is read or shown. Nothing of it is lost on
the way, so the file is the one that was named and no other. -/

namespace Datapack

open Diagnostic CommandLine

/-! ### The text of a file -/

/-- The file of an entry is found again below the folder of its report. -/
theorem Path.ofString_within {folder : Path} (h : ∀ name ∈ folder.parts, IsName name)
    (f : Finding) : ofString (f.within folder).file = folder.child f.file :=
  ofString_toText fun _ => isName_of_mem_parts_child h

/-- The record of an error at the end of a document. -/
def Diagnostic.Record.atEnd (uri message : String) (text : Option String) : Record :=
  let position := lastPosition (text.getD "").toList
  { uri, line := position.line, column := position.column, message }

section

variable {path uri : String} (h : Uri.IsFilePath path.toList) (huri : Uri.ofPath path = .ok uri)

include h huri

theorem FileTree.textOf_filePath (files : FileTree) :
    files.textOf uri = textOrNone (files.readText (Path.ofString path)) := by
  rw [textOf, h.toPath_ofPath huri]
  rfl

theorem Diagnostic.recordOf_atEnd {folders : List Path} {files : FileTree} {f : Finding}
    (hfile : f.file = path) (hline : f.line = endMark) :
    Ledger.recordOf (.disk folders) files f =
      (textOrNone (files.readText (Path.ofString path))).map (Record.atEnd uri f.message) := by
  have htext : Documents.text (.disk folders) files uri =
      textOrNone (files.readText (Path.ofString path)) := files.textOf_filePath h huri
  simp only [Ledger.recordOf, hfile, huri, hline, if_true, htext, bind, Except.bind]
  cases textOrNone (files.readText (Path.ofString path)) with
  | error e => rfl
  | ok text => simp [Except.map, Record.atEnd, positionOf, pure, Except.pure]

/-! ### The path that is shown -/

theorem CommandLine.shownPath_filePath : shownPath uri = .ok path := by
  obtain ⟨rest, hrest⟩ := h.exists_cons
  have hne : path.isEmpty = false := by
    rw [← Bool.not_eq_true, String.isEmpty_iff]
    rintro rfl
    cases hrest
  rw [shownPath, h.toPath_ofPath huri]
  simp only [bind, Except.bind, hne]
  rfl

theorem CommandLine.reportRow_filePath {r : Record} (hr : r.uri = uri) :
    reportRow r = .ok [path, toString (r.line + 1), toString r.column, r.message] := by
  rw [reportRow, hr, shownPath_filePath h huri]
  rfl

/-- The table of some diagnostics shows the path in the rows of its file. -/
theorem CommandLine.reportLines_filePath {records : List Record}
    (hfiles : ∀ r ∈ records, ∃ named, Uri.ofPath named = .ok r.uri) (hne : records ≠ []) :
    ∃ rows, reportLines records = .ok [.table ["file", "line", "column", "message"] rows,
        .line ("[red]" ++ toString records.length ++ " error(s)[/red]")] ∧
      List.Forall₂ (fun r row => r.uri = uri →
        row = [path, toString (r.line + 1), toString r.column, r.message]) records rows := by
  obtain ⟨rows, hrows⟩ := reportRows_ok hfiles
  refine ⟨rows, ?_, (forall₂_of_mapM_ok hrows).imp fun r row hrow hr => ?_⟩
  · rw [reportLines, hrows, if_neg (by simpa using hne)]
    rfl
  · exact Except.ok.inj (hrow.symm.trans (reportRow_filePath h huri hr))

end

/-- The rows that a terminal shows of a table: the first cell of each is what it makes of the first
text of the row. -/
theorem CommandLine.shown_table {terminal : Terminal} {headers : List String}
    {rows shown : List (List String)}
    (h : Printed.shown terminal (.table headers rows) = .ok shown) :
    ∃ heading cells, shown = heading :: cells ∧
      List.Forall₂ (fun row cells => ∀ text rest, row = text :: rest →
        ∃ first more, cells = first :: more ∧ terminal text = .ok first) rows cells := by
  obtain ⟨heading, cells, _, hcells, rfl⟩ :=
    List.forall₂_cons_left_iff.mp (forall₂_of_mapM_ok h)
  refine ⟨heading, cells, rfl, hcells.imp ?_⟩
  rintro _ cells hrow text rest rfl
  rw [List.mapM_cons] at hrow
  obtain ⟨first, hfirst, hrow⟩ := bind_eq_ok_iff.mp hrow
  obtain ⟨more, _, hrow⟩ := bind_eq_ok_iff.mp hrow
  exact ⟨first, more, (Except.ok.inj hrow).symm, hfirst⟩

/-! ### From the compiler to the console -/

theorem Diagnostic.exists_path_of_mem_allRecords {calls : Calls} {r : Record}
    (hr : r ∈ allRecords (Ledger.submitAll {} calls).store) :
    ∃ named, Uri.ofPath named = .ok r.uri := by
  obtain ⟨p, hp, hr⟩ := mem_allRecords.mp hr
  obtain ⟨_, named, hbring⟩ := (Ledger.each_submitAll calls).store p hp r hr
  exact ⟨named, hbring.ofPath_eq⟩

namespace Uri

/-- The uri of a file path names the path again, so no other file path has it. A list of diagnostics
never has records of two such files, whatever calls were made and whatever the client took. At the
end of a document it is the text of the named file that is read, also if a report names it from its
folder. The row of each record is handed to the terminal with this path, as it is, and what is shown
in the row is what the terminal makes of it: the path itself only if it shows this text as it is. -/
theorem ofPath_names_one_file {path : String} (hpath : IsFilePath path.toList) :
    ∃ uri, ofPath path = .ok uri ∧ toPath uri = .ok (some path) ∧
      (∀ other, IsFilePath other.toList → ofPath other = .ok uri → other = path) ∧
      (∀ (calls : Calls) (r : Record), (Ledger.submitAll {} calls).Lists uri r →
        ∃ named, calls.Bring named r ∧ (IsFilePath named.toList → named = path)) ∧
      (∀ other, IsFilePath other.toList → other ≠ path → ∀ (calls : Calls) (u : String)
        (r r' : Record), (Ledger.submitAll {} calls).Lists u r →
          (Ledger.submitAll {} calls).Lists u r' → calls.Bring path r → ¬calls.Bring other r') ∧
      (∀ (folders : List Path) (files : FileTree),
        Documents.text (.disk folders) files uri =
          textOrNone (files.readText (Path.ofString path)) ∧
        ∀ f : Finding, f.file = path → f.line = endMark →
          Ledger.recordOf (.disk folders) files f =
            (textOrNone (files.readText (Path.ofString path))).map (Record.atEnd uri f.message)) ∧
      (∀ (folder : Path) (f : Finding), (∀ name ∈ folder.parts, Path.IsName name) →
        (f.within folder).file = path → Path.ofString path = folder.child f.file) ∧
      ∀ calls : Calls, allRecords (Ledger.submitAll {} calls).store ≠ [] →
        ∃ rows, reportLines (allRecords (Ledger.submitAll {} calls).store) =
            .ok [.table ["file", "line", "column", "message"] rows,
              .line ("[red]" ++ toString (allRecords (Ledger.submitAll {} calls).store).length ++
                " error(s)[/red]")] ∧
          List.Forall₂ (fun r row => calls.Bring path r →
              row = [path, toString (r.line + 1), toString r.column, r.message])
            (allRecords (Ledger.submitAll {} calls).store) rows ∧
          ∀ (terminal : Terminal) (shown : List (List String)),
            Printed.shown terminal (.table ["file", "line", "column", "message"] rows) = .ok shown →
            ∃ heading cells, shown = heading :: cells ∧
              List.Forall₂ (fun r cells => calls.Bring path r →
                  ∃ file more, cells = file :: more ∧ terminal path = .ok file)
                (allRecords (Ledger.submitAll {} calls).store) cells := by
  have huri := hpath.ofPath_eq
  refine ⟨_, huri, hpath.toPath_ofPath huri, ?_, ?_, ?_, ?_, ?_, ?_⟩
  · exact fun other hother hsame => hpath.ofPath_injective hother huri hsame
  · intro calls r hlists
    obtain ⟨hr, named, hbring⟩ := (Ledger.each_submitAll calls).of_lists hlists
    refine ⟨named, hbring, fun hnamed => hpath.ofPath_injective hnamed huri ?_⟩
    rw [hbring.ofPath_eq, hr]
  · intro other hother hne calls u r r' hlists hlists' hbring hbring'
    obtain ⟨hr, _⟩ := (Ledger.each_submitAll calls).of_lists hlists
    obtain ⟨hr', _⟩ := (Ledger.each_submitAll calls).of_lists hlists'
    have hsame : ofPath other = .ok r.uri := by rw [hbring'.ofPath_eq, hr, hr']
    exact hne (hpath.ofPath_injective hother hbring.ofPath_eq hsame)
  · intro folders files
    exact ⟨files.textOf_filePath hpath huri, fun f => recordOf_atEnd hpath huri⟩
  · rintro folder f hfolder rfl
    exact Path.ofString_within hfolder f
  · intro calls hne
    obtain ⟨rows, hlines, hrows⟩ := reportLines_filePath hpath huri
      (fun r hr => exists_path_of_mem_allRecords hr) hne
    have hhanded : List.Forall₂ (fun r row => calls.Bring path r →
        row = [path, toString (r.line + 1), toString r.column, r.message])
        (allRecords (Ledger.submitAll {} calls).store) rows :=
      hrows.imp fun r row hrow hbring =>
        hrow (Except.ok.inj (hbring.ofPath_eq.symm.trans huri))
    refine ⟨rows, hlines, hhanded, fun terminal shown hshown => ?_⟩
    obtain ⟨heading, cells, hcells, hfirst⟩ := shown_table hshown
    exact ⟨heading, cells, hcells, forall₂_of_comp
      (fun r row cells hrow hcells hbring => hcells _ _ (hrow hbring)) hhanded hfirst⟩

/-- A path with characters that mean something in a uri, one that takes two bytes, and a line end. -/
def hardPath : String := "/ws/a%2?#;é\n.dps"

/-- The path as it is escaped. -/
def hardUri : String := "file:///ws/a%252%3F%23%3B%C3%A9%0A.dps"

/-- Files of which one has this path. -/
def hardFiles : FileTree :=
  ⟨[(["ws"], .directory), (["ws", "a%2?#;é\n.dps"], .file (Text.encodeUtf8 "tag\nend"))]⟩

/-- A report that names the file from its folder, and an error at its end. -/
def hardCalls : Calls :=
  [(.accepting, .enterReport (.disk []) hardFiles ⟨.slash, ["ws"]⟩
    (some ⟨[⟨"a%2?#;é\n.dps", endMark, 0, "open"⟩], []⟩))]

theorem hardCalls_bring : hardCalls.Bring hardPath ⟨hardUri, 1, 2, "open", .error, sourceName⟩ := by
  refine ⟨_, List.mem_singleton_self _, ?_⟩
  exact .entry (f := ⟨"a%2?#;é\n.dps", endMark, 0, "open"⟩) (List.mem_singleton_self _)
    (by decide +kernel) (by decide +kernel)

/-- The error is placed in the text of the file, and shown with its path. -/
theorem ofPath_names_hardPath :
    IsFilePath hardPath.toList ∧ ofPath hardPath = .ok hardUri ∧
    toPath hardUri = .ok (some hardPath) ∧
    Ledger.recordOf (.disk []) hardFiles ⟨hardPath, endMark, 0, "open"⟩ =
      .ok (Record.atEnd hardUri "open" (some "tag\nend")) ∧
    ∃ rows last, reportLines (allRecords (Ledger.submitAll {} hardCalls).store) =
        .ok [.table ["file", "line", "column", "message"] rows, last] ∧
      rows = [[hardPath, "2", "2", "open"]] := by
  have hpath : IsFilePath hardPath.toList :=
    ⟨by decide +kernel, by decide +kernel, by decide +kernel⟩
  have hfiled : ofPath hardPath = .ok hardUri := by decide +kernel
  have htext : textOrNone (hardFiles.readText (Path.ofString hardPath)) =
      .ok (some "tag\nend") := by decide +kernel
  have hkept : allRecords (Ledger.submitAll {} hardCalls).store =
      [⟨hardUri, 1, 2, "open", .error, sourceName⟩] := by decide +kernel
  obtain ⟨uri, huri, hnamed, _, _, _, hread, _, hshown⟩ := ofPath_names_one_file hpath
  obtain rfl := Except.ok.inj (huri.symm.trans hfiled)
  obtain ⟨rows, hlines, hrows, _⟩ := hshown hardCalls (by simp [hkept])
  refine ⟨hpath, huri, hnamed, ?_, rows, _, hlines, ?_⟩
  · rw [(hread [] hardFiles).2 _ rfl rfl, htext]
    rfl
  · rw [hkept, List.forall₂_cons_left_iff] at hrows
    obtain ⟨row, rest, hrow, hrest, rfl⟩ := hrows
    rw [hrow hardCalls_bring, List.forall₂_nil_left_iff.mp hrest]
    decide +kernel

/-- A path with brackets around a name. -/
def bracketPath : String := "/ws/[draft]/x.dps"

/-- A line of compiler output about the file with this path. -/
def bracketCalls : Calls :=
  [(.accepting, .takeLine (.disk []) {} ("error:" ++ bracketPath ++ "|1-0|bad"))]

/-- A text without its opening tags, which are brackets around what begins with a small letter. After
a tag was found, so many of its characters are passed over. -/
def withoutTags : Nat → List Char → List Char
  | _, [] => []
  | n + 1, _ :: cs => withoutTags n cs
  | 0, c :: cs =>
    let inner := cs.takeWhile fun d => d != '[' && d != ']'
    if c = '[' ∧ inner.head?.any Char.isLower ∧ cs[inner.length]? = some ']' then
      withoutTags (inner.length + 1) cs
    else c :: withoutTags 0 cs

/-- A terminal that shows nothing of tags. -/
def tagReader : Terminal := fun text => .ok (String.ofList (withoutTags 0 text.toList))

/-- A terminal that reads tags is handed a path with brackets as it is, and shows another one. -/
theorem bracketPath_shown_without_brackets :
    IsFilePath bracketPath.toList ∧
    reportLines (allRecords (Ledger.submitAll {} bracketCalls).store) =
      .ok [.table ["file", "line", "column", "message"] [[bracketPath, "1", "0", "bad"]],
        .line "[red]1 error(s)[/red]"] ∧
    Printed.shown tagReader
        (.table ["file", "line", "column", "message"] [[bracketPath, "1", "0", "bad"]]) =
      .ok [["file", "line", "column", "message"], ["/ws//x.dps", "1", "0", "bad"]] ∧
    Printed.shown tagReader (.line "[green]No errors.") = .ok [["No errors."]] := by
  refine ⟨⟨?_, ?_, ?_⟩, ?_, ?_, ?_⟩ <;> decide +kernel

end Uri

end Datapack
