import ShaderAnalysis.Hlsl.Builtin

/-!
# Semantics

The semantics that bind values to pipeline stages.
-/

namespace ShaderAnalysis.Hlsl

/-- All semantics: of vertices, of the system, and of compute shaders. -/
def semantics : List Builtin :=
  [.semantic "POSITION" "Vertex position" .vertex,
    .semantic "NORMAL" "Normal vector" .vertex,
    .semantic "TANGENT" "Tangent vector" .vertex,
    .semantic "BINORMAL" "Binormal vector" .vertex,
    .semantic "TEXCOORD0" "Texture coordinate 0" .vertex,
    .semantic "TEXCOORD1" "Texture coordinate 1" .vertex,
    .semantic "TEXCOORD2" "Texture coordinate 2" .vertex,
    .semantic "TEXCOORD3" "Texture coordinate 3" .vertex,
    .semantic "TEXCOORD4" "Texture coordinate 4" .vertex,
    .semantic "TEXCOORD5" "Texture coordinate 5" .vertex,
    .semantic "TEXCOORD6" "Texture coordinate 6" .vertex,
    .semantic "TEXCOORD7" "Texture coordinate 7" .vertex,
    .semantic "COLOR" "Vertex color" .vertex,
    .semantic "COLOR0" "Vertex color 0" .vertex,
    .semantic "COLOR1" "Vertex color 1" .vertex,
    .semantic "BLENDWEIGHT" "Blend weights" .vertex,
    .semantic "BLENDINDICES" "Blend indices" .vertex,
    .semantic "SV_Position" "Clip-space position (vertex output, pixel input)" .all,
    .semantic "SV_Target" "Render target output" .pixel,
    .semantic "SV_Target0" "Render target 0" .pixel,
    .semantic "SV_Target1" "Render target 1" .pixel,
    .semantic "SV_Target2" "Render target 2" .pixel,
    .semantic "SV_Target3" "Render target 3" .pixel,
    .semantic "SV_Depth" "Depth output" .pixel,
    .semantic "SV_VertexID" "Vertex index" .vertex,
    .semantic "SV_InstanceID" "Instance index" .vertex,
    .semantic "SV_PrimitiveID" "Primitive index" .all,
    .semantic "SV_IsFrontFace" "Whether the primitive is front facing" .pixel,
    .semantic "SV_SampleIndex" "Sample index" .pixel,
    .semantic "SV_Coverage" "Coverage mask" .pixel,
    .semantic "SV_ClipDistance" "Clip distance" .all,
    .semantic "SV_CullDistance" "Cull distance" .all,
    .semantic "SV_RenderTargetArrayIndex" "Render target array index" .all,
    .semantic "SV_ViewportArrayIndex" "Viewport array index" .all,
    .semantic "SV_DispatchThreadID" "Global thread index across the whole dispatch" .compute,
    .semantic "SV_GroupID" "Thread group index" .compute,
    .semantic "SV_GroupThreadID" "Thread index within its group" .compute,
    .semantic "SV_GroupIndex" "Flattened thread index within its group" .compute]

end ShaderAnalysis.Hlsl
