/-
# HeaderBind.Proofs.Clang.Filed — the file that a declaration is listed under

A requested header is known by its absolute path, a declaration by the file name that the
parser reports for it.  `declarations_of_readHeaders` tells what the library lists for a
requested header: the declarations of the top-level cursors whose file name is spelled like
the header's absolute path, in order.  These are all that stand in the header if and only
if the parser spells the file of each of them that way.

It need not.  A header that another one includes by way of a relative directory of headers
is reported as `./types.h`, and where it is included again by its absolute path, its guard
leaves nothing.  Its declarations are then listed under a file that nobody asks for, and the
requested header is left empty (`lost_declaration`).
-/
import HeaderBind.Proofs.Clang.Records
import HeaderBind.Proofs.File.Absolute

namespace HeaderBind.Clang

set_option autoImplicit false

open Outcome

/-! ## Looking up a file -/

theorem lookup_addDeclaration (file name : String) (declaration : ExternalDeclaration)
    (files : FileTable) :
    (addDeclaration file declaration files).lookup name =
      if name = file then some ((files.lookup name).getD [] ++ [declaration])
      else files.lookup name := by
  induction files with
  | nil => simp [addDeclaration, lookup_cons_eq]
  | cons entry files ih =>
    obtain ⟨other, declarations⟩ := entry
    rw [addDeclaration]
    by_cases here : other = file
    · subst here
      rw [if_pos rfl, lookup_cons_eq, lookup_cons_eq]
      by_cases asked : name = other <;> simp [asked]
    · rw [if_neg here, lookup_cons_eq, lookup_cons_eq, ih]
      by_cases asked : name = other
      · simp [asked, here]
      · simp [asked]

/-- Each declaration goes to the end of the list of its file. -/
theorem lookup_withDeclarations {files : FileTable} {name : String}
    {declarations : List ExternalDeclaration} (known : files.lookup name = some declarations)
    (filed : List (String × ExternalDeclaration)) :
    (withDeclarations files filed).lookup name =
      some (declarations ++ (filed.filter fun entry => entry.1 = name).map Prod.snd) := by
  induction filed generalizing files declarations with
  | nil => simp [withDeclarations, known]
  | cons entry filed ih =>
    rw [withDeclarations, List.foldl_cons, ← withDeclarations]
    have next := lookup_addDeclaration entry.1 name entry.2 files
    rw [known, Option.getD_some] at next
    by_cases here : name = entry.1
    · rw [if_pos here] at next
      rw [ih next, List.filter_cons_of_pos (by simpa using here.symm), List.map_cons,
        List.append_assoc, List.singleton_append]
    · rw [if_neg here] at next
      rw [ih next, List.filter_cons_of_neg (by simpa using Ne.symm here)]

theorem lookup_addFile (files : FileTable) (file name : String) :
    (addFile files file).lookup name =
      if name = file then some ((files.lookup name).getD []) else files.lookup name := by
  unfold addFile
  by_cases same : name = file
  · subst same
    rw [if_pos rfl]
    split
    · rename_i known
      obtain ⟨declarations, found⟩ := Option.isSome_iff_exists.1 known
      rw [found, Option.getD_some]
    · rename_i unknown
      rw [Bool.not_eq_true, Option.isSome_eq_false_iff, Option.isNone_iff_eq_none] at unknown
      simp [List.lookup_append, unknown]
  · rw [if_neg same]
    split
    · rfl
    · simp [List.lookup_append, lookup_cons_eq, same]

theorem lookup_foldl_addFile {headers : List String} {header : String} (files : FileTable)
    (empty : (files.lookup header).getD [] = [])
    (requested : header ∈ headers ∨ (files.lookup header).isSome = true) :
    (headers.foldl addFile files).lookup header = some [] := by
  induction headers generalizing files with
  | nil =>
    obtain ⟨declarations, found⟩ :=
      Option.isSome_iff_exists.1 (requested.resolve_left List.not_mem_nil)
    rw [found, Option.getD_some] at empty
    rw [List.foldl_nil, found, empty]
  | cons first headers ih =>
    rw [List.foldl_cons]
    have next := lookup_addFile files first header
    by_cases same : header = first
    · rw [if_pos same, empty] at next
      exact ih _ (by rw [next, Option.getD_some]) (.inr (by rw [next]; rfl))
    · rw [if_neg same] at next
      refine ih _ (by rw [next, empty]) ?_
      rw [next]
      exact requested.imp_left fun member => (List.mem_cons.1 member).resolve_left same

/-- Every requested header is a file from the start, without declarations. -/
theorem lookup_requested {headers : List String} {header : String} (member : header ∈ headers) :
    (headers.foldl addFile []).lookup header = some [] :=
  lookup_foldl_addFile [] rfl (.inl member)

/-! ## The declarations of a header -/

/-- Of two selections from a list, the one within the other takes as much if and only if
it takes the same. -/
theorem map_filter_eq_iff {α β : Type} {p q : α → Bool} {list : List α} (f : α → β)
    (within : ∀ a ∈ list, p a = true → q a = true) :
    (list.filter p).map f = (list.filter q).map f ↔ ∀ a ∈ list, q a = true → p a = true := by
  have narrowed : list.filter p = (list.filter q).filter p := by
    rw [List.filter_filter]
    refine List.filter_congr fun a member => ?_
    cases taken : p a with
    | false => rfl
    | true => simp [within a member taken]
  constructor
  · intro same a member wider
    have length : (list.filter p).length = (list.filter q).length := by
      simpa using congrArg List.length same
    rw [narrowed, List.length_filter_eq_length_iff] at length
    exact length a (List.mem_filter.2 ⟨member, wider⟩)
  · intro each
    rw [narrowed, List.filter_eq_self.2 fun a member =>
      each a (List.mem_filter.1 member).1 (List.mem_filter.1 member).2]

/-- Each declaration is in the file of its cursor. -/
theorem names_of_filedAs {unit : SourceUnit} {state : Conversion}
    {entries : List (String × Cursor)} {filed : List (String × ExternalDeclaration)}
    (each : List.Forall₂ (FiledAs unit state) entries filed) :
    filed.map Prod.fst = entries.map Prod.fst := by
  induction each with
  | nil => rfl
  | cons first _ ih => rw [List.map_cons, List.map_cons, first.1, ih]

/-- What stands in the file of a header, whatever the names of that file. -/
def standingIn (store : File.Store) (header : String)
    (filed : List (String × ExternalDeclaration)) : List ExternalDeclaration :=
  (filed.filter fun entry => store.absolute entry.1 = store.absolute header).map Prod.snd

/-- What is listed under the absolute path of a header. -/
def listedUnder (store : File.Store) (header : String)
    (filed : List (String × ExternalDeclaration)) : List ExternalDeclaration :=
  (filed.filter fun entry => entry.1 = store.absolute header).map Prod.snd

/-- **What is listed for a requested header**, and when it is all that stands there: if and
only if the parser names the file of every declaration in it by its absolute path. -/
theorem declarations_of_readHeaders {store : File.Store} {parser : Parser}
    {options headers : List String} {read : ReadLibrary} (rooted : store.IsRooted)
    (done : (readHeaders store parser options headers).outcome = .ok read) :
    ∃ unit visited state filed,
      parser ⟨parserArguments options, includerSource (headers.map store.absolute)⟩ =
        .unit unit ∧
      ReadFrom unit visited state (headers.map store.absolute) read ∧
      List.Forall₂ (FiledAs unit state) unit.listed filed ∧
      ∀ header ∈ headers,
        read.library.files.lookup (store.absolute header) =
          some (listedUnder store header filed) ∧
        (listedUnder store header filed = standingIn store header filed ↔
          ∀ entry ∈ unit.listed, store.absolute entry.1 = store.absolute header →
            entry.1 = store.absolute header) := by
  unfold readHeaders at done
  split at done
  · cases done
  · obtain ⟨unit, visited, state, isUnit, readFrom⟩ := readFrom_of_readSource done
    obtain ⟨filed, each, isLibrary⟩ := readFrom.lists
    have named := names_of_filedAs each
    refine ⟨unit, visited, state, filed, isUnit, readFrom, each, fun header member => ⟨?_, ?_⟩⟩
    · have asked : store.absolute header ∈ headers.map store.absolute :=
        List.mem_map_of_mem member
      have known := lookup_requested asked
      rw [isLibrary, lookup_withDeclarations known, List.nil_append, listedUnder]
    · rw [listedUnder, standingIn, map_filter_eq_iff]
      · simp only [decide_eq_true_iff]
        rw [← List.forall_mem_map (f := Prod.fst)
          (P := fun file => store.absolute file = store.absolute header →
            file = store.absolute header), named, List.forall_mem_map]
      · intro entry _ spelled
        rw [of_decide_eq_true spelled, store.absolute_absolute rooted]
        exact decide_eq_true rfl

/-! ## A header that another one includes -/

/-- A working directory with a header, and one that it includes from there. -/
def typesStore : File.Store where
  directory := "/work"
  files := [("/work/api.h", "#include <types.h>\n"),
    ("/work/types.h", "#pragma once\nint area(void);\n")]

/-- The unit of the two, with the name that the parser reports for the included file. -/
def typesUnit (file : String) : SourceUnit where
  cursors := #[{ Cursor.bare .functionDecl with
    spelling := "area"
    file
    resultType := .leaf "INT" "int" none }]
  top := [⟨0⟩]
  diagnostics := []

/-- Reported by its absolute path, the included header has its declaration. -/
theorem declarations_of_types : ∃ read,
    (readHeaders typesStore (fun _ => .unit (typesUnit "/work/types.h")) ["-I."]
      ["api.h", "types.h"]).outcome = .ok read ∧
    ∃ filed, read.library.files.lookup (typesStore.absolute "types.h") =
        some (listedUnder typesStore "types.h" filed) ∧
      listedUnder typesStore "types.h" filed = standingIn typesStore "types.h" filed ∧
      filed.map Prod.fst = ["/work/types.h"] := by
  have tested : (readHeaders typesStore (fun _ => .unit (typesUnit "/work/types.h")) ["-I."]
      ["api.h", "types.h"]).outcome.toOption.any (fun _ => true) = true := by decide +kernel
  obtain ⟨read, done, -⟩ := exists_of_ok tested
  obtain ⟨unit, visited, state, filed, isUnit, -, each, told⟩ :=
    declarations_of_readHeaders (by decide +kernel) done
  cases isUnit
  obtain ⟨listed, all⟩ := told "types.h" (by simp)
  have names : (typesUnit "/work/types.h").listed.map Prod.fst = ["/work/types.h"] := by
    decide +kernel
  refine ⟨read, done, filed, listed, all.2 ?_, (names_of_filedAs each).trans names⟩
  decide +kernel

/-- **A lost declaration.**  Reported as a relative path, the included header stays empty. -/
theorem lost_declaration : ∃ read,
    (readHeaders typesStore (fun _ => .unit (typesUnit "./types.h")) ["-I."]
      ["api.h", "types.h"]).outcome = .ok read ∧
    read.library.files.lookup (typesStore.absolute "types.h") = some [] ∧
    (typesUnit "./types.h").listed.map Prod.fst = ["./types.h"] ∧
    typesStore.absolute "./types.h" = typesStore.absolute "types.h" := by
  have tested : (readHeaders typesStore (fun _ => .unit (typesUnit "./types.h")) ["-I."]
      ["api.h", "types.h"]).outcome.toOption.any (fun read =>
        decide (read.library.files.lookup (typesStore.absolute "types.h") = some [])) = true := by
    decide +kernel
  obtain ⟨read, done, empty⟩ := exists_of_ok tested
  exact ⟨read, done, of_decide_eq_true empty, by decide +kernel, by decide +kernel⟩

end HeaderBind.Clang
