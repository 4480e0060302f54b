import LadderAtlas.Snapshot

/-! # Plain data

Records as maps of their fields, in the order in which exports list them. -/

namespace LadderAtlas

/-- A text that may be absent. -/
def Value.optText (s : Option String) : Value := .opt .text s

/-- A number that may be absent. -/
def Value.optWhole (n : Option Int) : Value := .opt .whole n

def Tag.plain (t : Tag) : Value := .record [
  ("name", .text t.name),
  ("data_type", .text t.dataType),
  ("scope", .text t.scope),
  ("description", .optText t.description),
  ("usage", .optText t.usage),
  ("value", .optText t.value),
  ("alias_for", .optText t.aliasFor),
  ("radix", .optText t.radix),
  ("external_access", .optText t.externalAccess),
  ("dimensions", .optText t.dimensions),
  ("tag_type", .optText t.tagType),
  ("constant", .bool t.constant)]

def Member.plain (m : Member) : Value := .record [
  ("name", .text m.name),
  ("data_type", .text m.dataType),
  ("dimension", .optWhole m.dimension),
  ("description", .optText m.description),
  ("radix", .optText m.radix),
  ("external_access", .optText m.externalAccess)]

def Udt.plain (u : Udt) : Value := .record [
  ("name", .text u.name),
  ("description", .optText u.description),
  ("family_type", .optText u.familyType),
  ("members", .list (u.members.map Member.plain))]

def Parameter.plain (p : Parameter) : Value := .record [
  ("name", .text p.name),
  ("data_type", .text p.dataType),
  ("usage", .text p.usage),
  ("required", .bool p.required),
  ("visible", .bool p.visible),
  ("description", .optText p.description),
  ("external_access", .optText p.externalAccess),
  ("default_value", .optText p.defaultValue)]

def LocalTag.plain (t : LocalTag) : Value := .record [
  ("name", .text t.name),
  ("data_type", .text t.dataType),
  ("radix", .optText t.radix),
  ("external_access", .optText t.externalAccess),
  ("description", .optText t.description)]

def AoiRoutine.plain (r : AoiRoutine) : Value := .record [
  ("name", .text r.name),
  ("type", .text r.type),
  ("description", .optText r.description),
  ("rung_count", .optWhole r.rungCount)]

def Aoi.plain (a : Aoi) : Value := .record [
  ("name", .text a.name),
  ("revision", .optText a.revision),
  ("vendor", .optText a.vendor),
  ("description", .optText a.description),
  ("parameters", .list (a.parameters.map Parameter.plain)),
  ("local_tags", .list (a.localTags.map LocalTag.plain)),
  ("routines", .list (a.routines.map AoiRoutine.plain)),
  ("execute_prescan", .bool a.executePrescan),
  ("execute_postscan", .bool a.executePostscan),
  ("execute_enable_in_false", .bool a.executeEnableInFalse),
  ("created_date", .optText a.createdDate),
  ("created_by", .optText a.createdBy),
  ("edited_date", .optText a.editedDate),
  ("edited_by", .optText a.editedBy)]

def Routine.plain (r : Routine) : Value := .record [
  ("name", .text r.name),
  ("program_name", .text r.programName),
  ("type", .text r.type),
  ("description", .optText r.description),
  ("rung_count", .optWhole r.rungCount)]

def Rung.plain (r : Rung) : Value := .record [
  ("program_name", .text r.programName),
  ("routine_name", .text r.routineName),
  ("number", .whole r.number),
  ("logic_text", .text r.logicText),
  ("comment", .optText r.comment)]

def IoModule.plain (m : IoModule) : Value := .record [
  ("name", .text m.name),
  ("catalog_number", .optText m.catalogNumber),
  ("parent_module", .optText m.parentModule),
  ("slot", .optWhole m.slot),
  ("connection_info", m.connectionInfo)]

def Task.plain (t : Task) : Value := .record [
  ("name", .text t.name),
  ("type", .text t.type),
  ("priority", .optWhole t.priority),
  ("rate", .optWhole t.rate),
  ("watchdog", .optWhole t.watchdog),
  ("inhibit_task", .bool t.inhibitTask),
  ("disable_update_outputs", .bool t.disableUpdateOutputs),
  ("scheduled_programs", .texts t.scheduledPrograms),
  ("description", .optText t.description)]

def Metadata.plain (m : Metadata) : Value := .record [
  ("project_name", .optText m.projectName),
  ("processor_type", .optText m.processorType),
  ("software_revision", .optText m.softwareRevision),
  ("target_type", .optText m.targetType),
  ("target_name", .optText m.targetName),
  ("export_date", .optText m.exportDate),
  ("schema_revision", .optText m.schemaRevision)]

def Document.plain (d : Document) : Value := .record [
  ("kind", .text d.kind.name),
  ("metadata", d.metadata.plain),
  ("tags", .list (d.tags.map Tag.plain)),
  ("udts", .list (d.udts.map Udt.plain)),
  ("aois", .list (d.aois.map Aoi.plain)),
  ("routines", .list (d.routines.map Routine.plain)),
  ("rungs", .list (d.rungs.map Rung.plain)),
  ("modules", .list (d.modules.map IoModule.plain)),
  ("tasks", .list (d.tasks.map Task.plain)),
  ("sections_present", .texts d.sectionNames)]

def TagReference.plain (r : TagReference) : Value := .record [
  ("tag_name", .text r.tagName),
  ("program_name", .text r.programName),
  ("routine_name", .text r.routineName),
  ("rung_number", .whole r.rungNumber),
  ("usage_type", .text r.usage.name),
  ("instruction", .text r.instruction),
  ("file_id", .optText r.fileId),
  ("version_id", .optText r.versionId)]

end LadderAtlas
