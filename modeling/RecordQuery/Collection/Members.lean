import RecordQuery.Collection.Basic
/-!
The names that a collection has without looking anything up: its methods and fields.
-/

namespace RecordQuery
namespace Collection

def methods : List String := [
  "append", "clear", "construct", "copy", "count", "dict", "extend", "find_all", "find_all_by",
  "find_by", "finder", "from_orm", "index", "insert", "json", "lookup", "lookup_all",
  "model_computed_fields", "model_config", "model_construct", "model_copy", "model_dump",
  "model_dump_json", "model_extra", "model_fields", "model_fields_set", "model_json_schema",
  "model_parametrized_name", "model_post_init", "model_rebuild", "model_validate",
  "model_validate_json", "model_validate_strings", "parse_file", "parse_obj", "parse_raw", "pop",
  "query", "remove", "responds_to", "reverse", "schema", "schema_json", "update_forward_refs",
  "validate"]

def privateMethods : List String := [
  "_spawn", "_predicate", "_query_item", "_check_default_finders", "_require_default_finders",
  "_find_by_name", "_find_by_token", "_abc_impl"]

/-- The methods behind operators and built-in functions, and the names that every object has. -/
def operatorMethods : List String := [
  "__abstractmethods__", "__add__", "__annotations__", "__class__", "__class_getitem__",
  "__class_vars__", "__contains__", "__copy__", "__deepcopy__", "__delattr__", "__delitem__",
  "__dict__", "__dir__", "__doc__", "__eq__", "__fields__", "__fields_set__", "__format__", "__ge__",
  "__getattr__", "__getattribute__", "__getitem__", "__getstate__", "__gt__", "__hash__", "__iadd__",
  "__init__", "__init_subclass__", "__iter__", "__le__", "__len__", "__lt__", "__module__", "__ne__",
  "__new__", "__orig_bases__", "__parameters__", "__pretty__", "__private_attributes__",
  "__reduce__", "__reduce_ex__", "__replace__", "__repr__", "__repr_args__", "__repr_name__",
  "__repr_recursion__", "__repr_str__", "__reversed__", "__rich_repr__", "__setattr__",
  "__setitem__", "__setstate__", "__signature__", "__sizeof__", "__slots__", "__str__",
  "__subclasshook__", "__weakref__"]

def finderFields : List String := ["default_finders", "_default_finders"]

def recordField : String := "root"

/-- The names that the class of a collection answers for although its collections do not. -/
def classOnlyNames : List String := [
  "mro", "register", "__base__", "__bases__", "__call__", "__instancecheck__", "__mro__", "__name__",
  "__prepare__", "__qualname__", "__subclasscheck__", "__subclasses__"]

def isMethod (name : String) : Bool :=
  methods.contains name || privateMethods.contains name || operatorMethods.contains name

def classHas (name : String) : Bool :=
  isMethod name || finderFields.contains name || classOnlyNames.contains name

def member? (c : Collection) (name : String) : Option Value :=
  if name = recordField then some (.list c.records)
  else if finderFields.contains name then some c.finders.toValue
  else if isMethod name then some (.method name)
  else none

end Collection
end RecordQuery
