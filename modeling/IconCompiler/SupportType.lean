/-! # The support type

    Generated constants are values of a support type, whose source is provided
    along with them. -/

namespace IconCompiler.SupportType

/-- The source of the support type, line by line. -/
def lines : List String := [
  "// Generated by `iconforge support`. Safe to edit; regenerating overwrites it.",
  "",
  "use std::fmt;",
  "",
  "const SVG_NAMESPACE: &str = \"http://www.w3.org/2000/svg\";",
  "",
  "/// An SVG icon declared by generated code.",
  "///",
  "/// `attributes` holds the source root element's attributes in source order,",
  "/// without namespace declarations or `class`. `inner` is the root's",
  "/// children serialized without namespace prefixes.",
  "#[derive(Debug, Clone, Copy, PartialEq, Eq, Hash)]",
  "pub struct Icon \x7b",
  "    pub name: &'static str,",
  "    pub attributes: &'static [(&'static str, &'static str)],",
  "    pub inner: &'static str,",
  "\x7d",
  "",
  "impl Icon \x7b",
  "    /// Value of a root attribute, matched case-sensitively.",
  "    pub fn attribute(&self, key: &str) -> Option<&'static str> \x7b",
  "        self.attributes",
  "            .iter()",
  "            .find(|(k, _)| *k == key)",
  "            .map(|(_, v)| *v)",
  "    \x7d",
  "",
  "    /// Render a standalone `<svg>` element.",
  "    pub fn to_svg(&self) -> String \x7b",
  "        self.to_svg_with(&[])",
  "    \x7d",
  "",
  "    /// Render a standalone `<svg>` element, replacing or appending the given",
  "    /// attributes (e.g. `(\"class\", \"icon\")` or `(\"width\", \"16\")`).",
  "    pub fn to_svg_with(&self, overrides: &[(&str, &str)]) -> String \x7b",
  "        let mut out = String::with_capacity(self.inner.len() + 128);",
  "        out.push_str(\"<svg xmlns=\\\"\");",
  "        out.push_str(SVG_NAMESPACE);",
  "        out.push('\"');",
  "",
  "        for (key, value) in self.attributes \x7b",
  "            let value = overrides",
  "                .iter()",
  "                .find(|(k, _)| k == key)",
  "                .map_or(*value, |(_, v)| *v);",
  "            push_attribute(&mut out, key, value);",
  "        \x7d",
  "        for (key, value) in overrides \x7b",
  "            if key.is_empty() || self.attribute(key).is_some() \x7b",
  "                continue;",
  "            \x7d",
  "            push_attribute(&mut out, key, value);",
  "        \x7d",
  "",
  "        out.push('>');",
  "        out.push_str(self.inner);",
  "        out.push_str(\"</svg>\");",
  "        out",
  "    \x7d",
  "\x7d",
  "",
  "impl fmt::Display for Icon \x7b",
  "    fn fmt(&self, f: &mut fmt::Formatter<'_>) -> fmt::Result \x7b",
  "        f.write_str(&self.to_svg())",
  "    \x7d",
  "\x7d",
  "",
  "fn push_attribute(out: &mut String, key: &str, value: &str) \x7b",
  "    out.push(' ');",
  "    out.push_str(key);",
  "    out.push_str(\"=\\\"\");",
  "    for ch in value.chars() \x7b",
  "        match ch \x7b",
  "            '&' => out.push_str(\"&amp;\"),",
  "            '<' => out.push_str(\"&lt;\"),",
  "            '>' => out.push_str(\"&gt;\"),",
  "            '\"' => out.push_str(\"&quot;\"),",
  "            other => out.push(other),",
  "        \x7d",
  "    \x7d",
  "    out.push('\"');",
  "\x7d"]

/-- The source of the support type. -/
def source : String :=
  String.join (lines.map (· ++ "\n"))

end IconCompiler.SupportType
