import CatalogEntities.Naming

/-!
# `Run/Claim.lean` — one table for each file name

Different tables may have one file name. The first of them, in the order of the listing, claims it
and is generated; the others are skipped. Which tables share a file name does not depend on the
suffix of the file names.

This is the `claim_file_names` of the generator. It is carried out before the work on any table
begins, so that who gets a file name is decided by the listing alone and never by which job happens
to be faster. A skipped table is not a failure: it is told in the log and in the report.
-/

set_option autoImplicit false

namespace CatalogEntities

/-- **What becomes of a listed table.** A refusal carries the owner of the name, because the line
that is logged about it names both. -/
inductive Claim
  | granted (table : String)
  /-- An earlier table, the owner, has its file name. -/
  | refused (table owner : String)
  deriving Repr, DecidableEq

namespace Claim

/-- Decides about tables in their order; `owners` are the file names taken so far, with the tables
that took them. Only a granted table is added to them, so the owner of a name is always the first
table that has it and the list holds no name twice. -/
def decideAfter (suffix : String) (owners : List (String × String)) :
    List String → List Claim
  | [] => []
  | table :: rest =>
      let name := Naming.fileName table suffix
      match owners.lookup name with
      | some owner => refused table owner :: decideAfter suffix owners rest
      | none => granted table :: decideAfter suffix ((name, table) :: owners) rest

/-- **Decides about the tables of a listing**, when no name is taken yet. The answer has one entry
for each place of the listing; a table that is listed twice claims its own name the first time and
is refused it the second. -/
def decide (suffix : String) (tables : List String) : List Claim := decideAfter suffix [] tables

/-- The table, if it is to be generated. -/
def granted? : Claim → Option String
  | granted table => some table
  | refused .. => none

/-- The table, if it is skipped. -/
def refused? : Claim → Option String
  | granted _ => none
  | refused table _ => some table

def table : Claim → String
  | granted table => table
  | refused table _ => table

end Claim

end CatalogEntities
