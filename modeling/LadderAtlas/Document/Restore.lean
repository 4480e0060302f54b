import LadderAtlas.Document.Plain
import LadderAtlas.Failure
import LadderAtlas.Value.Lookup

/-! # Records from plain data

Records read back from the maps that `plain` makes of them. A field that is missing takes its
default. -/

namespace LadderAtlas

def Tag.ofPlain (v : Value) : Tag where
  name := v.textAt "name"
  dataType := v.textAt "data_type"
  scope := (v.text?At "scope").getD controllerScope
  description := v.text?At "description"
  usage := v.text?At "usage"
  value := v.text?At "value"
  aliasFor := v.text?At "alias_for"
  radix := v.text?At "radix"
  externalAccess := v.text?At "external_access"
  dimensions := v.text?At "dimensions"
  tagType := v.text?At "tag_type"
  constant := v.flagAt "constant" false

def Member.ofPlain (v : Value) : Member where
  name := v.textAt "name"
  dataType := v.textAt "data_type"
  dimension := v.whole?At "dimension"
  description := v.text?At "description"
  radix := v.text?At "radix"
  externalAccess := v.text?At "external_access"

def Udt.ofPlain (v : Value) : Udt where
  name := v.textAt "name"
  description := v.text?At "description"
  familyType := v.text?At "family_type"
  members := (v.itemsAt "members").map Member.ofPlain

def Parameter.ofPlain (v : Value) : Parameter where
  name := v.textAt "name"
  dataType := v.textAt "data_type"
  usage := (v.text?At "usage").getD "Input"
  required := v.flagAt "required" false
  visible := v.flagAt "visible" true
  description := v.text?At "description"
  externalAccess := v.text?At "external_access"
  defaultValue := v.text?At "default_value"

def LocalTag.ofPlain (v : Value) : LocalTag where
  name := v.textAt "name"
  dataType := v.textAt "data_type"
  radix := v.text?At "radix"
  externalAccess := v.text?At "external_access"
  description := v.text?At "description"

def AoiRoutine.ofPlain (v : Value) : AoiRoutine where
  name := v.textAt "name"
  type := v.textAt "type"
  description := v.text?At "description"
  rungCount := v.whole?At "rung_count"

def Aoi.ofPlain (v : Value) : Aoi where
  name := v.textAt "name"
  revision := v.text?At "revision"
  vendor := v.text?At "vendor"
  description := v.text?At "description"
  parameters := (v.itemsAt "parameters").map Parameter.ofPlain
  localTags := (v.itemsAt "local_tags").map LocalTag.ofPlain
  routines := (v.itemsAt "routines").map AoiRoutine.ofPlain
  executePrescan := v.flagAt "execute_prescan" false
  executePostscan := v.flagAt "execute_postscan" false
  executeEnableInFalse := v.flagAt "execute_enable_in_false" false
  createdDate := v.text?At "created_date"
  createdBy := v.text?At "created_by"
  editedDate := v.text?At "edited_date"
  editedBy := v.text?At "edited_by"

def Routine.ofPlain (v : Value) : Routine where
  name := v.textAt "name"
  programName := v.textAt "program_name"
  type := v.textAt "type"
  description := v.text?At "description"
  rungCount := v.whole?At "rung_count"

def Rung.ofPlain (v : Value) : Rung where
  programName := v.textAt "program_name"
  routineName := v.textAt "routine_name"
  number := v.wholeAt "number" 0
  logicText := v.textAt "logic_text"
  comment := v.text?At "comment"

def IoModule.ofPlain (v : Value) : IoModule where
  name := v.textAt "name"
  catalogNumber := v.text?At "catalog_number"
  parentModule := v.text?At "parent_module"
  slot := v.whole?At "slot"
  connectionInfo := v.entry "connection_info"

def Task.ofPlain (v : Value) : Task where
  name := v.textAt "name"
  type := v.textAt "type"
  priority := v.whole?At "priority"
  rate := v.whole?At "rate"
  watchdog := v.whole?At "watchdog"
  inhibitTask := v.flagAt "inhibit_task" false
  disableUpdateOutputs := v.flagAt "disable_update_outputs" false
  scheduledPrograms := v.textsAt "scheduled_programs"
  description := v.text?At "description"

def Metadata.ofPlain (v : Value) : Metadata where
  projectName := v.text?At "project_name"
  processorType := v.text?At "processor_type"
  softwareRevision := v.text?At "software_revision"
  targetType := v.text?At "target_type"
  targetName := v.text?At "target_name"
  exportDate := v.text?At "export_date"
  schemaRevision := v.text?At "schema_revision"

/-- The document of a map; L5X is the default kind. -/
def Document.ofPlain (v : Value) : Document where
  kind := if v.textAt "kind" = FileKind.l5k.name then .l5k else .l5x
  metadata := .ofPlain (v.entry "metadata")
  tags := (v.itemsAt "tags").map Tag.ofPlain
  udts := (v.itemsAt "udts").map Udt.ofPlain
  aois := (v.itemsAt "aois").map Aoi.ofPlain
  routines := (v.itemsAt "routines").map Routine.ofPlain
  rungs := (v.itemsAt "rungs").map Rung.ofPlain
  modules := (v.itemsAt "modules").map IoModule.ofPlain
  tasks := (v.itemsAt "tasks").map Task.ofPlain
  sections := Section.all.filter fun s => (v.textsAt "sections_present").contains s.name

/-- The reference of a map, whose use must be a known one. -/
def TagReference.ofPlain (v : Value) : Except Failure TagReference :=
  match Usage.ofName? (v.textAt "usage_type") with
  | none => .error (.fault .badValue)
  | some usage => .ok {
      tagName := v.textAt "tag_name"
      programName := v.textAt "program_name"
      routineName := v.textAt "routine_name"
      rungNumber := v.wholeAt "rung_number" 0
      usage
      instruction := v.textAt "instruction"
      fileId := v.text?At "file_id"
      versionId := v.text?At "version_id" }

end LadderAtlas
