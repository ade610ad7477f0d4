import ServiceStubs.Service.Controller
import ServiceStubs.Service.ModelUnit

/-!
# The texts of the built-in templates

The templates of a controller and of the aggregate unit as they are written, line by line.  The
renderer is built from them once, before it sees any value.
-/

namespace ServiceStubs

/-- The text of the controller template. -/
def ControllerView.templateText : String :=
  "// <auto-generated>\n"
    ++ "// Generated by servicegen from \x7b\x7b source_doc \x7d\x7d. Do not edit.\n"
    ++ "\x7b%- if target_doc %\x7d\n"
    ++ "// Target: \x7b\x7b target_doc \x7d\x7d\n"
    ++ "\x7b%- endif %\x7d\n"
    ++ "// </auto-generated>\n"
    ++ "\n"
    ++ "/// Routed entry points for the \x60\x7b\x7b service_name \x7d\x7d\x60 service.\n"
    ++ "pub struct \x7b\x7b controller_name \x7d\x7d;\n"
    ++ "\n"
    ++ "impl \x7b\x7b controller_name \x7d\x7d \x7b\n"
    ++ "    /// Route paths and handler names in declaration order.\n"
    ++ "    pub const ROUTES: &'static [(&'static str, &'static str)] = &[\n"
    ++ "\x7b%- for op in operations %\x7d\n"
    ++ "        (\x7b\x7b op.route_literal \x7d\x7d, \x7b\x7b op.fn_literal \x7d\x7d),\n"
    ++ "\x7b%- endfor %\x7d\n"
    ++ "    ];\n"
    ++ "\n"
    ++ "    /// Resolves a route path to its handler's response.\n"
    ++ "    pub fn dispatch(path: &str) -> Option<&'static str> \x7b\n"
    ++ "        match path \x7b\n"
    ++ "\x7b%- for op in operations %\x7d\n"
    ++ "            \x7b\x7b op.route_literal \x7d\x7d => "
    ++ "Some(Self::\x7b\x7b op.fn_name \x7d\x7d()),\n"
    ++ "\x7b%- endfor %\x7d\n"
    ++ "            _ => None,\n"
    ++ "        \x7d\n"
    ++ "    \x7d\n"
    ++ "\x7b%- for op in operations %\x7d\n"
    ++ "\n"
    ++ "    /// \x60GET \x7b\x7b op.route \x7d\x7d\x60\x7b% if op.return_type_doc %\x7d"
    ++ " standing in for \x60\x7b\x7b op.return_type_doc \x7d\x7d\x60\x7b% endif %\x7d.\n"
    ++ "    pub fn \x7b\x7b op.fn_name \x7d\x7d() -> &'static str \x7b\n"
    ++ "        \x7b\x7b op.result_literal \x7d\x7d\n"
    ++ "    \x7d\n"
    ++ "\x7b%- endfor %\x7d\n"
    ++ "\x7d\n"

/-- The text of the template of the aggregate unit. -/
def ModelView.templateText : String :=
  "// <auto-generated>\n"
    ++ "// Service model extracted from \x7b\x7b module_doc \x7d\x7d. Do not edit.\n"
    ++ "// </auto-generated>\n"
    ++ "\x7b\x7b comment_block \x7d\x7d\n"

end ServiceStubs
