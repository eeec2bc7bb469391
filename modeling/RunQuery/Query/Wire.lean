import RunQuery.Filter.Wire
import RunQuery.Query.Basic

/-!
# Queries as data

A query as JSON data, and its reading. Every field may be left out; a field that may be absent is
written only where it is there, apart from those of the columns, which are written as null.
-/

namespace RunQuery

namespace SortOrder

def toJson (order : SortOrder) : Json :=
  .object [("name", Json.ofOption .string order.name), ("ascending", .bool order.ascending)]

def read? {δ : Type} [Document δ] (d : δ) : Option SortOrder :=
  match Document.fields? [("name", .optional), ("ascending", .optional)] d with
  | some [name, ascending] => do
    return ⟨← Document.orAbsent? Document.text? name,
      ← Document.orElse? Document.bool? false ascending⟩
  | _ => none

end SortOrder

namespace SectionColumns

def toJson (c : SectionColumns) : Json :=
  .object [("auto", Json.ofOption .bool c.auto), ("columns", Json.ofTexts c.columns)]

def read? {δ : Type} [Document δ] (d : δ) : Option SectionColumns :=
  match Document.fields? [("auto", .optional), ("columns", .optional)] d with
  | some [auto, columns] => do
    return ⟨← Document.orAbsent? Document.bool? auto,
      ← Document.orElse? (Document.list? Document.text?) [] columns⟩
  | _ => none

end SectionColumns

namespace ColumnChoice

def toJson (c : ColumnChoice) : Json :=
  .object [("config", Json.ofOption SectionColumns.toJson c.config),
    ("summary", Json.ofOption SectionColumns.toJson c.summary)]

def read? {δ : Type} [Document δ] (d : δ) : Option ColumnChoice :=
  match Document.fields? [("config", .optional), ("summary", .optional)] d with
  | some [config, summary] => do
    return ⟨← Document.orAbsent? SectionColumns.read? config,
      ← Document.orAbsent? SectionColumns.read? summary⟩
  | _ => none

end ColumnChoice

namespace Query

def pageToJson (size : Nat) : Json := .object [("size", Json.ofCount size)]

def readPage? {δ : Type} [Document δ] (d : δ) : Option Nat :=
  match Document.fields? [("size", .required)] d with
  | some [some size] => Document.count? size
  | _ => none

def toJson (query : Query) : Json :=
  .object <|
    [("filters", query.filters.toJson), ("selections", query.selections.toJson),
     ("sort", query.sort.toJson)] ++
    (query.grouping.map fun grouping ↦ ("grouping", grouping.toJson)).toList ++
    [("level", .string query.level.name)] ++
    (query.page.map fun size ↦ ("page", pageToJson size)).toList ++
    [("disabled", .bool query.disabled), ("reuseBase", .bool query.reuseBase),
     ("columns", query.columns.toJson)]

/-- The fields of a query. -/
def fields : List (String × Document.Presence) :=
  [("filters", .optional), ("selections", .optional), ("sort", .optional),
   ("grouping", .optional), ("level", .optional), ("page", .optional), ("disabled", .optional),
   ("reuseBase", .optional), ("columns", .optional)]

def read? {δ : Type} [Document δ] (d : δ) : Option Query :=
  match Document.fields? fields d with
  | some [filters, selections, sort, grouping, level, page, disabled, reuseBase, columns] => do
    return {
      filters := ← Document.orElse? Filter.read? default.filters filters
      selections := ← Document.orElse? Filter.read? default.selections selections
      sort := ← Document.orElse? SortOrder.read? default.sort sort
      grouping := ← Document.orAbsent? Grouping.read? grouping
      level := ← Document.orElse? Level.read? default.level level
      page := ← Document.orAbsent? readPage? page
      disabled := ← Document.orElse? Document.bool? default.disabled disabled
      reuseBase := ← Document.orElse? Document.bool? default.reuseBase reuseBase
      columns := ← Document.orElse? ColumnChoice.read? default.columns columns }
  | _ => none

end Query

end RunQuery
