import FormScaffold.Shipped.Lines

/-!
# Shipped templates: Ui

Components, types and validation of the user interface.
-/

namespace FormScaffold.Shipped

/-- The template file `ui/form_component.tsx.tera`. -/
def formComponentTsx : String := ofLines
  ["// Generated by formgen on \x7b\x7b generated_at \x7d\x7d",
   "import \x7b useForm \x7d from \"react-hook-form\";",
   "import \x7b zodResolver \x7d from \"@hookform/resolvers/zod\";",
   "import \x7b \x7b\x7b entity_name_camel \x7d\x7dSchema \x7d from \"../validation/\x7b\x7b entity_name \x7d\x7d.schema\";",
   "import type \x7b \x7b\x7b entity_name \x7d\x7dFormValues \x7d from \"../types/\x7b\x7b entity_name \x7d\x7d.types\";",
   "",
   "export interface \x7b\x7b entity_name \x7d\x7dFormProps \x7b",
   "  initialValues?: Partial<\x7b\x7b entity_name \x7d\x7dFormValues>;",
   "  onSubmit: (values: \x7b\x7b entity_name \x7d\x7dFormValues) => void | Promise<void>;",
   "  submitLabel?: string;",
   "\x7d",
   "",
   "export function \x7b\x7b entity_name \x7d\x7dForm(\x7b initialValues, onSubmit, submitLabel = \"Save\" \x7d: \x7b\x7b entity_name \x7d\x7dFormProps) \x7b",
   "  const \x7b",
   "    register,",
   "    handleSubmit,",
   "    formState: \x7b errors, isSubmitting \x7d,",
   "  \x7d = useForm<\x7b\x7b entity_name \x7d\x7dFormValues>(\x7b",
   "    resolver: zodResolver(\x7b\x7b entity_name_camel \x7d\x7dSchema),",
   "    defaultValues: initialValues,",
   "  \x7d);",
   "",
   "  return (",
   "    <form className=\"\x7b\x7b entity_name_snake \x7d\x7d-form\" onSubmit=\x7bhandleSubmit(onSubmit)\x7d noValidate>",
   "\x7b% for f in fields %\x7d\x7b% if f.field_type == \"email\" or f.field_type == \"url\" or f.field_type == \"tel\" or f.field_type == \"date\" or f.field_type == \"time\" or f.field_type == \"file\" %\x7d\x7b% set input_type = f.field_type %\x7d\x7b% elif f.field_type == \"number\" or f.field_type == \"decimal\" or f.field_type == \"currency\" %\x7d\x7b% set input_type = \"number\" %\x7d\x7b% elif f.field_type == \"datetime\" %\x7d\x7b% set input_type = \"datetime-local\" %\x7d\x7b% else %\x7d\x7b% set input_type = \"text\" %\x7d\x7b% endif %\x7d      <div className=\"form-field\">",
   "        <label htmlFor=\"\x7b\x7b f.camel_name \x7d\x7d\">",
   "          \x7b\x7b f.label \x7d\x7d\x7b% if f.required %\x7d *\x7b% endif %\x7d",
   "        </label>",
   "\x7b% if f.field_type == \"textarea\" %\x7d        <textarea id=\"\x7b\x7b f.camel_name \x7d\x7d\"\x7b% if f.placeholder %\x7d placeholder=\"\x7b\x7b f.placeholder \x7d\x7d\"\x7b% endif %\x7d\x7b% if f.max_length %\x7d maxLength=\x7b \x7b\x7b f.max_length \x7d\x7d \x7d\x7b% endif %\x7d \x7b...register(\"\x7b\x7b f.camel_name \x7d\x7d\")\x7d />",
   "\x7b% elif f.field_type == \"select\" or f.field_type == \"radio\" %\x7d        <select id=\"\x7b\x7b f.camel_name \x7d\x7d\" \x7b...register(\"\x7b\x7b f.camel_name \x7d\x7d\")\x7d>",
   "          <option value=\"\">Select...</option>",
   "\x7b% for o in f.options %\x7d          <option value=\"\x7b\x7b o.value \x7d\x7d\">\x7b% if o.label %\x7d\x7b\x7b o.label \x7d\x7d\x7b% else %\x7d\x7b\x7b o.value \x7d\x7d\x7b% endif %\x7d</option>",
   "\x7b% endfor %\x7d        </select>",
   "\x7b% elif f.field_type == \"checkbox\" or f.field_type == \"boolean\" %\x7d        <input id=\"\x7b\x7b f.camel_name \x7d\x7d\" type=\"checkbox\" \x7b...register(\"\x7b\x7b f.camel_name \x7d\x7d\")\x7d />",
   "\x7b% else %\x7d        <input",
   "          id=\"\x7b\x7b f.camel_name \x7d\x7d\"",
   "          type=\"\x7b\x7b input_type \x7d\x7d\"\x7b% if f.placeholder %\x7d",
   "          placeholder=\"\x7b\x7b f.placeholder \x7d\x7d\"\x7b% endif %\x7d\x7b% if f.max_length and f.frontend_type == \"string\" %\x7d",
   "          maxLength=\x7b \x7b\x7b f.max_length \x7d\x7d \x7d\x7b% endif %\x7d",
   "          \x7b...register(\"\x7b\x7b f.camel_name \x7d\x7d\"\x7b% if input_type == \"number\" %\x7d, \x7b valueAsNumber: true \x7d\x7b% endif %\x7d)\x7d",
   "        />",
   "\x7b% endif %\x7d        \x7berrors.\x7b\x7b f.camel_name \x7d\x7d && <span className=\"field-error\">\x7berrors.\x7b\x7b f.camel_name \x7d\x7d?.message\x7d</span>\x7d",
   "      </div>",
   "\x7b% endfor %\x7d      <button type=\"submit\" disabled=\x7bisSubmitting\x7d>",
   "        \x7bsubmitLabel\x7d",
   "      </button>",
   "    </form>",
   "  );",
   "\x7d",
   "",
   "export default \x7b\x7b entity_name \x7d\x7dForm;"]

/-- The template file `ui/list_component.tsx.tera`. -/
def listComponentTsx : String := ofLines
  ["// Generated by formgen on \x7b\x7b generated_at \x7d\x7d",
   "import type \x7b \x7b\x7b entity_name \x7d\x7d \x7d from \"../types/\x7b\x7b entity_name \x7d\x7d.types\";",
   "",
   "export interface \x7b\x7b entity_name \x7d\x7dListProps \x7b",
   "  items: \x7b\x7b entity_name \x7d\x7d[];",
   "  onEdit?: (item: \x7b\x7b entity_name \x7d\x7d) => void;",
   "  onDelete?: (item: \x7b\x7b entity_name \x7d\x7d) => void;",
   "\x7d",
   "",
   "function formatValue(value: unknown): string \x7b",
   "  if (value === null || value === undefined) \x7b",
   "    return \"\";",
   "  \x7d",
   "  if (value instanceof Date) \x7b",
   "    return value.toLocaleDateString();",
   "  \x7d",
   "  if (typeof value === \"boolean\") \x7b",
   "    return value ? \"Yes\" : \"No\";",
   "  \x7d",
   "  return String(value);",
   "\x7d",
   "",
   "export function \x7b\x7b entity_name \x7d\x7dList(\x7b items, onEdit, onDelete \x7d: \x7b\x7b entity_name \x7d\x7dListProps) \x7b",
   "  if (items.length === 0) \x7b",
   "    return <p className=\"empty-state\">No \x7b\x7b entity_name_plural \x7d\x7d yet.</p>;",
   "  \x7d",
   "",
   "  return (",
   "    <table className=\"\x7b\x7b entity_name_snake \x7d\x7d-list\">",
   "      <thead>",
   "        <tr>",
   "\x7b% for f in fields %\x7d\x7b% if f.field_type != \"file\" %\x7d          <th>\x7b\x7b f.label \x7d\x7d</th>",
   "\x7b% endif %\x7d\x7b% endfor %\x7d          <th />",
   "        </tr>",
   "      </thead>",
   "      <tbody>",
   "        \x7bitems.map((item) => (",
   "          <tr key=\x7bitem.id\x7d>",
   "\x7b% for f in fields %\x7d\x7b% if f.field_type != \"file\" %\x7d            <td>\x7bformatValue(item.\x7b\x7b f.camel_name \x7d\x7d)\x7d</td>",
   "\x7b% endif %\x7d\x7b% endfor %\x7d            <td>",
   "              \x7bonEdit && <button onClick=\x7b() => onEdit(item)\x7d>Edit</button>\x7d",
   "              \x7bonDelete && <button onClick=\x7b() => onDelete(item)\x7d>Delete</button>\x7d",
   "            </td>",
   "          </tr>",
   "        ))\x7d",
   "      </tbody>",
   "    </table>",
   "  );",
   "\x7d",
   "",
   "export default \x7b\x7b entity_name \x7d\x7dList;"]

/-- The template file `ui/types.ts.tera`. -/
def typesTs : String := ofLines
  ["// Generated by formgen on \x7b\x7b generated_at \x7d\x7d",
   "",
   "export interface \x7b\x7b entity_name \x7d\x7d \x7b",
   "  id: number;",
   "\x7b% for f in fields %\x7d  \x7b\x7b f.camel_name \x7d\x7d\x7b% if not f.required %\x7d?\x7b% endif %\x7d: \x7b% if f.frontend_type == \"File\" %\x7dstring\x7b% else %\x7d\x7b\x7b f.frontend_type \x7d\x7d\x7b% endif %\x7d;",
   "\x7b% endfor %\x7d  createdAt: Date;",
   "  updatedAt?: Date;",
   "\x7d",
   "",
   "export interface \x7b\x7b entity_name \x7d\x7dFormValues \x7b",
   "\x7b% for f in fields %\x7d  \x7b\x7b f.camel_name \x7d\x7d\x7b% if not f.required %\x7d?\x7b% endif %\x7d: \x7b\x7b f.frontend_type \x7d\x7d;",
   "\x7b% endfor %\x7d\x7d",
   "\x7b% for f in fields %\x7d\x7b% if f.options | length > 0 %\x7d",
   "export type \x7b\x7b entity_name \x7d\x7d\x7b\x7b f.pascal_name \x7d\x7dOption =\x7b% for o in f.options %\x7d \"\x7b\x7b o.value \x7d\x7d\"\x7b% if not loop.last %\x7d |\x7b% endif %\x7d\x7b% endfor %\x7d;",
   "\x7b% endif %\x7d\x7b% endfor %\x7d"]

/-- The template file `ui/validation_schema.ts.tera`. -/
def validationSchemaTs : String := ofLines
  ["// Generated by formgen on \x7b\x7b generated_at \x7d\x7d",
   "import \x7b z \x7d from \"zod\";",
   "",
   "export const \x7b\x7b entity_name_camel \x7d\x7dSchema = z.object(\x7b",
   "\x7b% for f in fields %\x7d\x7b% if f.frontend_type == \"number\" %\x7d\x7b% set base = \"z.number()\" %\x7d\x7b% elif f.frontend_type == \"boolean\" %\x7d\x7b% set base = \"z.boolean()\" %\x7d\x7b% elif f.frontend_type == \"Date\" %\x7d\x7b% set base = \"z.coerce.date()\" %\x7d\x7b% elif f.frontend_type == \"File\" %\x7d\x7b% set base = \"z.instanceof(File)\" %\x7d\x7b% else %\x7d\x7b% set base = \"z.string()\" %\x7d\x7b% endif %\x7d  \x7b\x7b f.camel_name \x7d\x7d: \x7b\x7b base \x7d\x7d\x7b% if f.frontend_type == \"string\" %\x7d\x7b% if f.field_type == \"email\" %\x7d.email(\"\x7b\x7b f.label \x7d\x7d must be a valid email address\")\x7b% elif f.field_type == \"url\" %\x7d.url(\"\x7b\x7b f.label \x7d\x7d must be a valid URL\")\x7b% endif %\x7d\x7b% if f.required %\x7d.min(\x7b% if f.min_length %\x7d\x7b\x7b f.min_length \x7d\x7d\x7b% else %\x7d1\x7b% endif %\x7d, \"\x7b\x7b f.label \x7d\x7d is required\")\x7b% elif f.min_length %\x7d.min(\x7b\x7b f.min_length \x7d\x7d)\x7b% endif %\x7d\x7b% if f.max_length and f.field_type != \"textarea\" %\x7d.max(\x7b\x7b f.max_length \x7d\x7d)\x7b% endif %\x7d\x7b% if f.pattern %\x7d.regex(new RegExp(\x7b\x7b f.pattern | json_encode() \x7d\x7d))\x7b% endif %\x7d\x7b% endif %\x7d\x7b% if not f.required %\x7d.optional()\x7b% endif %\x7d,",
   "\x7b% endfor %\x7d\x7d);",
   "",
   "export type \x7b\x7b entity_name \x7d\x7dInput = z.infer<typeof \x7b\x7b entity_name_camel \x7d\x7dSchema>;"]

end FormScaffold.Shipped
