import CommandGrammar.Unicode.RunTable

/-!
# Editions in which characters were added

The table labels every code point with the edition of the standard that assigned it. A class
of an edition also has the characters of all editions before it.
-/

namespace CommandGrammar

/-- The edition that assigned each code point. -/
def ageTable : RunTable := .ofText
    "0V1_1 1f6V3_0 1faV1_1 218V3_0 220V3_2 221V4_0 222V3_0 234V4_0 237V4_1 242V5_0 250V1_1
    2a9V3_0 2aeV4_0 2b0V1_1 2dfV3_0 2e0V1_1 2eaV3_0 2efV4_0 300V1_1 346V3_0 34fV3_2 350V4_0
    358V4_1 35dV4_0 360V1_1 362V3_0 363V3_2 370V5_1 374V1_1 376V5_1 378None 37aV1_1 37bV5_0
    37eV1_1 37fV7_0 380None 384V1_1 38bNone 38cV1_1 38dNone 38eV1_1 3a2None 3a3V1_1 3cfV5_1
    3d0V1_1 3d7V3_0 3d8V3_2 3daV1_1 3dbV3_0 3dcV1_1 3ddV3_0 3deV1_1 3dfV3_0 3e0V1_1 3e1V3_0
    3e2V1_1 3f4V3_1 3f6V3_2 3f7V4_0 3fcV4_1 400V3_0 401V1_1 40dV3_0 40eV1_1 450V3_0 451V1_1
    45dV3_0 45eV1_1 487V5_1 488V3_0 48aV3_2 48cV3_0 490V1_1 4c5V3_2 4c7V1_1 4c9V3_2 4cbV1_1
    4cdV3_2 4cfV5_0 4d0V1_1 4ecV3_0 4eeV1_1 4f6V4_1 4f8V1_1 4faV5_0 500V3_2 510V5_0 514V5_1
    524V5_2 526V6_0 528V7_0 530None 531V1_1 557None 559V1_1 560V11_0 561V1_1 588V11_0 589V1_1
    58aV3_0 58bNone 58dV7_0 58fV6_1 590None 591V2_0 5a2V4_1 5a3V2_0 5b0V1_1 5baV5_0 5bbV1_1
    5c4V2_0 5c5V4_1 5c8None 5d0V1_1 5ebNone 5efV11_0 5f0V1_1 5f5None 600V4_0 604V6_1 605V7_0
    606V5_1 60bV4_1 60cV1_1 60dV4_0 616V5_1 61bV1_1 61cV6_3 61dV14_0 61eV4_1 61fV1_1 620V6_0
    621V1_1 63bV5_1 640V1_1 653V3_0 656V4_0 659V4_1 65fV6_0 660V1_1 66eV3_2 670V1_1 6b8V3_0
    6baV1_1 6bfV3_0 6c0V1_1 6cfV3_0 6d0V1_1 6eeV4_0 6f0V1_1 6faV3_0 6ffV4_0 700V3_0 70eNone
    70fV3_0 72dV4_0 730V3_0 74bNone 74dV4_0 750V4_1 76eV5_1 780V3_0 7b1V3_2 7b2None 7c0V5_0
    7fbNone 7fdV11_0 800V5_2 82eNone 830V5_2 83fNone 840V6_0 85cNone 85eV6_0 85fNone 860V10_0
    86bNone 870V14_0 88fNone 890V14_0 892None 897V16_0 898V14_0 8a0V6_1 8a1V7_0 8a2V6_1 8adV7_0
    8b3V8_0 8b5V14_0 8b6V9_0 8beV13_0 8c8V14_0 8d3V11_0 8d4V9_0 8e3V8_0 8e4V6_1 8ffV7_0 900V5_2
    901V1_1 904V4_0 905V1_1 93aV6_0 93cV1_1 94eV5_2 94fV6_0 950V1_1 955V5_2 956V6_0 958V1_1
    971V5_1 973V6_0 978V7_0 979V5_2 97bV5_0 97dV4_1 97eV5_0 980V7_0 981V1_1 984None 985V1_1
    98dNone 98fV1_1 991None 993V1_1 9a9None 9aaV1_1 9b1None 9b2V1_1 9b3None 9b6V1_1 9baNone
    9bcV1_1 9bdV4_0 9beV1_1 9c5None 9c7V1_1 9c9None 9cbV1_1 9ceV4_1 9cfNone 9d7V1_1 9d8None
    9dcV1_1 9deNone 9dfV1_1 9e4None 9e6V1_1 9fbV5_2 9fcV10_0 9feV11_0 9ffNone a01V4_0 a02V1_1
    a03V4_0 a04None a05V1_1 a0bNone a0fV1_1 a11None a13V1_1 a29None a2aV1_1 a31None a32V1_1
    a34None a35V1_1 a37None a38V1_1 a3aNone a3cV1_1 a3dNone a3eV1_1 a43None a47V1_1 a49None
    a4bV1_1 a4eNone a51V5_1 a52None a59V1_1 a5dNone a5eV1_1 a5fNone a66V1_1 a75V5_1 a76V11_0
    a77None a81V1_1 a84None a85V1_1 a8cV4_0 a8dV1_1 a8eNone a8fV1_1 a92None a93V1_1 aa9None
    aaaV1_1 ab1None ab2V1_1 ab4None ab5V1_1 abaNone abcV1_1 ac6None ac7V1_1 acaNone acbV1_1
    aceNone ad0V1_1 ad1None ae0V1_1 ae1V4_0 ae4None ae6V1_1 af0V6_1 af1V4_0 af2None af9V8_0
    afaV10_0 b00None b01V1_1 b04None b05V1_1 b0dNone b0fV1_1 b11None b13V1_1 b29None b2aV1_1
    b31None b32V1_1 b34None b35V4_0 b36V1_1 b3aNone b3cV1_1 b44V5_1 b45None b47V1_1 b49None
    b4bV1_1 b4eNone b55V13_0 b56V1_1 b58None b5cV1_1 b5eNone b5fV1_1 b62V5_1 b64None b66V1_1
    b71V4_0 b72V6_0 b78None b82V1_1 b84None b85V1_1 b8bNone b8eV1_1 b91None b92V1_1 b96None
    b99V1_1 b9bNone b9cV1_1 b9dNone b9eV1_1 ba0None ba3V1_1 ba5None ba8V1_1 babNone baeV1_1
    bb6V4_1 bb7V1_1 bbaNone bbeV1_1 bc3None bc6V1_1 bc9None bcaV1_1 bceNone bd0V5_1 bd1None
    bd7V1_1 bd8None be6V4_1 be7V1_1 bf3V4_0 bfbNone c00V7_0 c01V1_1 c04V11_0 c05V1_1 c0dNone
    c0eV1_1 c11None c12V1_1 c29None c2aV1_1 c34V7_0 c35V1_1 c3aNone c3cV14_0 c3dV5_1 c3eV1_1
    c45None c46V1_1 c49None c4aV1_1 c4eNone c55V1_1 c57None c58V5_1 c5aV8_0 c5bNone c5dV14_0
    c5eNone c60V1_1 c62V5_1 c64None c66V1_1 c70None c77V12_0 c78V5_1 c80V9_0 c81V7_0 c82V1_1
    c84V11_0 c85V1_1 c8dNone c8eV1_1 c91None c92V1_1 ca9None caaV1_1 cb4None cb5V1_1 cbaNone
    cbcV4_0 cbeV1_1 cc5None cc6V1_1 cc9None ccaV1_1 cceNone cd5V1_1 cd7None cddV14_0 cdeV1_1
    cdfNone ce0V1_1 ce2V5_0 ce4None ce6V1_1 cf0None cf1V5_0 cf3V15_0 cf4None d00V10_0 d01V7_0
    d02V1_1 d04V13_0 d05V1_1 d0dNone d0eV1_1 d11None d12V1_1 d29V6_0 d2aV1_1 d3aV6_0 d3bV10_0
    d3dV5_1 d3eV1_1 d44V5_1 d45None d46V1_1 d49None d4aV1_1 d4eV6_0 d4fV9_0 d50None d54V9_0
    d57V1_1 d58V9_0 d5fV8_0 d60V1_1 d62V5_1 d64None d66V1_1 d70V5_1 d76V9_0 d79V5_1 d80None
    d81V13_0 d82V3_0 d84None d85V3_0 d97None d9aV3_0 db2None db3V3_0 dbcNone dbdV3_0 dbeNone
    dc0V3_0 dc7None dcaV3_0 dcbNone dcfV3_0 dd5None dd6V3_0 dd7None dd8V3_0 de0None de6V7_0
    df0None df2V3_0 df5None e01V1_1 e3bNone e3fV1_1 e5cNone e81V1_1 e83None e84V1_1 e85None
    e86V12_0 e87V1_1 e89V12_0 e8aV1_1 e8bNone e8cV12_0 e8dV1_1 e8eV12_0 e94V1_1 e98V12_0 e99V1_1
    ea0V12_0 ea1V1_1 ea4None ea5V1_1 ea6None ea7V1_1 ea8V12_0 eaaV1_1 eacV12_0 eadV1_1 ebaV12_0
    ebbV1_1 ebeNone ec0V1_1 ec5None ec6V1_1 ec7None ec8V1_1 eceV15_0 ecfNone ed0V1_1 edaNone
    edcV1_1 edeV6_1 ee0None f00V2_0 f48None f49V2_0 f6aV3_0 f6bV5_1 f6dNone f71V2_0 f8cV6_0
    f90V2_0 f96V3_0 f97V2_0 f98None f99V2_0 faeV3_0 fb1V2_0 fb8V3_0 fb9V2_0 fbaV3_0 fbdNone
    fbeV3_0 fcdNone fceV5_1 fcfV3_0 fd0V4_1 fd2V5_1 fd5V5_2 fd9V6_0 fdbNone 1000V3_0 1022V5_1
    1023V3_0 1028V5_1 1029V3_0 102bV5_1 102cV3_0 1033V5_1 1036V3_0 103aV5_1 1040V3_0 105aV5_1
    109aV5_2 109eV5_1 10a0V1_1 10c6None 10c7V6_1 10c8None 10cdV6_1 10ceNone 10d0V1_1 10f7V3_2
    10f9V4_1 10fbV1_1 10fcV4_1 10fdV6_1 1100V1_1 115aV5_2 115fV1_1 11a3V5_2 11a8V1_1 11faV5_2
    1200V3_0 1207V4_1 1208V3_0 1247V4_1 1248V3_0 1249None 124aV3_0 124eNone 1250V3_0 1257None
    1258V3_0 1259None 125aV3_0 125eNone 1260V3_0 1287V4_1 1288V3_0 1289None 128aV3_0 128eNone
    1290V3_0 12afV4_1 12b0V3_0 12b1None 12b2V3_0 12b6None 12b8V3_0 12bfNone 12c0V3_0 12c1None
    12c2V3_0 12c6None 12c8V3_0 12cfV4_1 12d0V3_0 12d7None 12d8V3_0 12efV4_1 12f0V3_0 130fV4_1
    1310V3_0 1311None 1312V3_0 1316None 1318V3_0 131fV4_1 1320V3_0 1347V4_1 1348V3_0 135bNone
    135dV6_0 135fV4_1 1361V3_0 137dNone 1380V4_1 139aNone 13a0V3_0 13f5V8_0 13f6None 13f8V8_0
    13feNone 1400V5_2 1401V3_0 1677V5_2 1680V3_0 169dNone 16a0V3_0 16f1V7_0 16f9None 1700V3_2
    170dV14_0 170eV3_2 1715V14_0 1716None 171fV14_0 1720V3_2 1737None 1740V3_2 1754None 1760V3_2
    176dNone 176eV3_2 1771None 1772V3_2 1774None 1780V3_0 17ddV4_0 17deNone 17e0V3_0 17eaNone
    17f0V4_0 17faNone 1800V3_0 180fV14_0 1810V3_0 181aNone 1820V3_0 1878V11_0 1879None 1880V3_0
    18aaV5_1 18abNone 18b0V5_2 18f6None 1900V4_0 191dV7_0 191fNone 1920V4_0 192cNone 1930V4_0
    193cNone 1940V4_0 1941None 1944V4_0 196eNone 1970V4_0 1975None 1980V4_1 19aaV5_2 19acNone
    19b0V4_1 19caNone 19d0V4_1 19daV5_2 19dbNone 19deV4_1 19e0V4_0 1a00V4_1 1a1cNone 1a1eV4_1
    1a20V5_2 1a5fNone 1a60V5_2 1a7dNone 1a7fV5_2 1a8aNone 1a90V5_2 1a9aNone 1aa0V5_2 1aaeNone
    1ab0V7_0 1abfV13_0 1ac1V14_0 1acfNone 1b00V5_0 1b4cV14_0 1b4dNone 1b4eV16_0 1b50V5_0
    1b7dV14_0 1b7fV16_0 1b80V5_1 1babV6_1 1baeV5_1 1bbaV6_1 1bc0V6_0 1bf4None 1bfcV6_0 1c00V5_1
    1c38None 1c3bV5_1 1c4aNone 1c4dV5_1 1c80V9_0 1c89V16_0 1c8bNone 1c90V11_0 1cbbNone 1cbdV11_0
    1cc0V6_1 1cc8None 1cd0V5_2 1cf3V6_1 1cf7V10_0 1cf8V7_0 1cfaV12_0 1cfbNone 1d00V4_0 1d6cV4_1
    1dc4V5_0 1dcbV5_1 1de7V7_0 1df6V10_0 1dfaV14_0 1dfbV9_0 1dfcV6_0 1dfdV5_2 1dfeV5_0 1e00V1_1
    1e9bV2_0 1e9cV5_1 1ea0V1_1 1efaV5_1 1f00V1_1 1f16None 1f18V1_1 1f1eNone 1f20V1_1 1f46None
    1f48V1_1 1f4eNone 1f50V1_1 1f58None 1f59V1_1 1f5aNone 1f5bV1_1 1f5cNone 1f5dV1_1 1f5eNone
    1f5fV1_1 1f7eNone 1f80V1_1 1fb5None 1fb6V1_1 1fc5None 1fc6V1_1 1fd4None 1fd6V1_1 1fdcNone
    1fddV1_1 1ff0None 1ff2V1_1 1ff5None 1ff6V1_1 1fffNone 2000V1_1 202fV3_0 2030V1_1 2047V3_2
    2048V3_0 204eV3_2 2053V4_0 2055V4_1 2057V3_2 2058V4_1 205fV3_2 2064V5_1 2065None 2066V6_3
    206aV1_1 2071V3_2 2072None 2074V1_1 208fNone 2090V4_1 2095V6_0 209dNone 20a0V1_1 20abV2_0
    20acV2_1 20adV3_0 20b0V3_2 20b2V4_1 20b6V5_2 20b9V6_0 20baV6_2 20bbV7_0 20beV8_0 20bfV10_0
    20c0V14_0 20c1None 20d0V1_1 20e2V3_0 20e4V3_2 20ebV4_1 20ecV5_0 20f0V5_1 20f1None 2100V1_1
    2139V3_0 213bV4_0 213cV4_1 213dV3_2 214cV4_1 214dV5_0 214fV5_1 2150V5_2 2153V1_1 2183V3_0
    2184V5_0 2185V5_1 2189V5_2 218aV8_0 218cNone 2190V1_1 21ebV3_0 21f4V3_2 2200V1_1 22f2V3_2
    2300V1_1 2301V3_0 2302V1_1 237bV3_0 237cV3_2 237dV3_0 239bV3_2 23cfV4_0 23d1V4_1 23dcV5_0
    23e8V5_2 23e9V6_0 23f4V7_0 23fbV9_0 23ffV10_0 2400V1_1 2425V3_0 2427V16_0 242aNone 2440V1_1
    244bNone 2460V1_1 24ebV3_2 24ffV4_0 2500V1_1 2596V3_2 25a0V1_1 25f0V3_0 25f8V3_2 2600V1_1
    2614V4_0 2616V3_2 2618V4_1 2619V3_0 261aV1_1 2670V3_0 2672V3_2 267eV4_1 2680V3_2 268aV4_0
    2692V4_1 269dV5_1 269eV5_2 26a0V4_0 26a2V4_1 26b2V5_0 26b3V5_1 26bdV5_2 26c0V5_1 26c4V5_2
    26ceV6_0 26cfV5_2 26e2V6_0 26e3V5_2 26e4V6_0 26e8V5_2 2700V7_0 2701V1_1 2705V6_0 2706V1_1
    270aV6_0 270cV1_1 2728V6_0 2729V1_1 274cV6_0 274dV1_1 274eV6_0 274fV1_1 2753V6_0 2756V1_1
    2757V5_2 2758V1_1 275fV6_0 2761V1_1 2768V3_2 2776V1_1 2795V6_0 2798V1_1 27b0V6_0 27b1V1_1
    27bfV6_0 27c0V4_1 27c7V5_0 27cbV6_1 27ccV5_1 27cdV6_1 27ceV6_0 27d0V3_2 27ecV5_1 27f0V3_2
    2800V3_0 2900V3_2 2b00V4_0 2b0eV4_1 2b14V5_0 2b1bV5_1 2b20V5_0 2b24V5_1 2b4dV7_0 2b50V5_1
    2b55V5_2 2b5aV7_0 2b74None 2b76V7_0 2b96None 2b97V13_0 2b98V7_0 2bbaV11_0 2bbdV7_0 2bc9V12_0
    2bcaV7_0 2bd2V10_0 2bd3V11_0 2becV8_0 2bf0V11_0 2bffV12_0 2c00V4_1 2c2fV14_0 2c30V4_1
    2c5fV14_0 2c60V5_0 2c6dV5_1 2c70V5_2 2c71V5_1 2c74V5_0 2c78V5_1 2c7eV5_2 2c80V4_1 2cebV5_2
    2cf2V6_1 2cf4None 2cf9V4_1 2d26None 2d27V6_1 2d28None 2d2dV6_1 2d2eNone 2d30V4_1 2d66V6_1
    2d68None 2d6fV4_1 2d70V6_0 2d71None 2d7fV6_0 2d80V4_1 2d97None 2da0V4_1 2da7None 2da8V4_1
    2dafNone 2db0V4_1 2db7None 2db8V4_1 2dbfNone 2dc0V4_1 2dc7None 2dc8V4_1 2dcfNone 2dd0V4_1
    2dd7None 2dd8V4_1 2ddfNone 2de0V5_1 2e00V4_1 2e18V5_1 2e1cV4_1 2e1eV5_1 2e31V5_2 2e32V6_1
    2e3cV7_0 2e43V9_0 2e45V10_0 2e4aV11_0 2e4fV12_0 2e50V13_0 2e53V14_0 2e5eNone 2e80V3_0
    2e9aNone 2e9bV3_0 2ef4None 2f00V3_0 2fd6None 2ff0V3_0 2ffcV15_1 3000V1_1 3038V3_0 303bV3_2
    303eV3_0 303fV1_1 3040None 3041V1_1 3095V3_2 3097None 3099V1_1 309fV3_2 30a1V1_1 30ffV3_2
    3100None 3105V1_1 312dV5_1 312eV10_0 312fV11_0 3130None 3131V1_1 318fNone 3190V1_1 31a0V3_0
    31b8V6_0 31bbV13_0 31c0V4_1 31d0V5_1 31e4V16_0 31e6None 31efV15_1 31f0V3_2 3200V1_1 321dV4_0
    321fNone 3220V1_1 3244V5_2 3250V4_0 3251V3_2 3260V1_1 327cV4_0 327eV4_1 327fV1_1 32b1V3_2
    32c0V1_1 32ccV4_0 32d0V1_1 32ffV12_1 3300V1_1 3377V4_0 337bV1_1 33deV4_0 33e0V1_1 33ffV4_0
    3400V3_0 4db6V13_0 4dc0V4_0 4e00V1_1 9fa6V4_1 9fbcV5_1 9fc4V5_2 9fccV6_1 9fcdV8_0 9fd6V10_0
    9febV11_0 9ff0V13_0 9ffdV14_0 a000V3_0 a48dNone a490V3_0 a4a2V3_2 a4a4V3_0 a4b4V3_2 a4b5V3_0
    a4c1V3_2 a4c2V3_0 a4c5V3_2 a4c6V3_0 a4c7None a4d0V5_2 a500V5_1 a62cNone a640V5_1 a660V6_0
    a662V5_1 a674V6_1 a67cV5_1 a698V7_0 a69eV8_0 a69fV6_1 a6a0V5_2 a6f8None a700V4_1 a717V5_0
    a71bV5_1 a720V5_0 a722V5_1 a78dV6_0 a78fV8_0 a790V6_0 a792V6_1 a794V7_0 a7a0V6_0 a7aaV6_1
    a7abV7_0 a7aeV9_0 a7afV11_0 a7b0V7_0 a7b2V8_0 a7b8V11_0 a7baV12_0 a7c0V14_0 a7c2V12_0
    a7c7V13_0 a7cbV16_0 a7ceNone a7d0V14_0 a7d2None a7d3V14_0 a7d4None a7d5V14_0 a7daV16_0
    a7ddNone a7f2V14_0 a7f5V13_0 a7f7V7_0 a7f8V6_1 a7faV6_0 a7fbV5_1 a800V4_1 a82cV13_0 a82dNone
    a830V5_2 a83aNone a840V5_0 a878None a880V5_1 a8c5V9_0 a8c6None a8ceV5_1 a8daNone a8e0V5_2
    a8fcV8_0 a8feV11_0 a900V5_1 a954None a95fV5_1 a960V5_2 a97dNone a980V5_2 a9ceNone a9cfV5_2
    a9daNone a9deV5_2 a9e0V7_0 a9ffNone aa00V5_1 aa37None aa40V5_1 aa4eNone aa50V5_1 aa5aNone
    aa5cV5_1 aa60V5_2 aa7cV7_0 aa80V5_2 aac3None aadbV5_2 aae0V6_1 aaf7None ab01V6_0 ab07None
    ab09V6_0 ab0fNone ab11V6_0 ab17None ab20V6_0 ab27None ab28V6_0 ab2fNone ab30V7_0 ab60V8_0
    ab64V7_0 ab66V12_0 ab68V13_0 ab6cNone ab70V8_0 abc0V5_2 abeeNone abf0V5_2 abfaNone ac00V2_0
    d7a4None d7b0V5_2 d7c7None d7cbV5_2 d7fcNone e000V1_1 fa2eV6_1 fa30V3_2 fa6bV5_2 fa6eNone
    fa70V4_1 fadaNone fb00V1_1 fb07None fb13V1_1 fb18None fb1dV3_0 fb1eV1_1 fb37None fb38V1_1
    fb3dNone fb3eV1_1 fb3fNone fb40V1_1 fb42None fb43V1_1 fb45None fb46V1_1 fbb2V6_0 fbc2V14_0
    fbc3None fbd3V1_1 fd40V14_0 fd50V1_1 fd90None fd92V1_1 fdc8None fdcfV14_0 fdd0V3_1 fdf0V1_1
    fdfcV3_2 fdfdV4_0 fdfeV14_0 fe00V3_2 fe10V4_1 fe1aNone fe20V1_1 fe24V5_1 fe27V7_0 fe2eV8_0
    fe30V1_1 fe45V3_2 fe47V4_0 fe49V1_1 fe53None fe54V1_1 fe67None fe68V1_1 fe6cNone fe70V1_1
    fe73V3_2 fe74V1_1 fe75None fe76V1_1 fefdNone feffV1_1 ff00None ff01V1_1 ff5fV3_2 ff61V1_1
    ffbfNone ffc2V1_1 ffc8None ffcaV1_1 ffd0None ffd2V1_1 ffd8None ffdaV1_1 ffddNone ffe0V1_1
    ffe7None ffe8V1_1 ffefNone fff9V3_0 fffcV2_1 fffdV1_1 10000V4_0 1000cNone 1000dV4_0
    10027None 10028V4_0 1003bNone 1003cV4_0 1003eNone 1003fV4_0 1004eNone 10050V4_0 1005eNone
    10080V4_0 100fbNone 10100V4_0 10103None 10107V4_0 10134None 10137V4_0 10140V4_1 1018bV7_0
    1018dV9_0 1018fNone 10190V5_1 1019cV13_0 1019dNone 101a0V7_0 101a1None 101d0V5_1 101feNone
    10280V5_1 1029dNone 102a0V5_1 102d1None 102e0V7_0 102fcNone 10300V3_1 1031fV7_0 10320V3_1
    10324None 1032dV10_0 10330V3_1 1034bNone 10350V7_0 1037bNone 10380V4_0 1039eNone 1039fV4_0
    103a0V4_1 103c4None 103c8V4_1 103d6None 10400V3_1 10426V4_0 10428V3_1 1044eV4_0 1049eNone
    104a0V4_0 104aaNone 104b0V9_0 104d4None 104d8V9_0 104fcNone 10500V7_0 10528None 10530V7_0
    10564None 1056fV7_0 10570V14_0 1057bNone 1057cV14_0 1058bNone 1058cV14_0 10593None
    10594V14_0 10596None 10597V14_0 105a2None 105a3V14_0 105b2None 105b3V14_0 105baNone
    105bbV14_0 105bdNone 105c0V16_0 105f4None 10600V7_0 10737None 10740V7_0 10756None 10760V7_0
    10768None 10780V14_0 10786None 10787V14_0 107b1None 107b2V14_0 107bbNone 10800V4_0 10806None
    10808V4_0 10809None 1080aV4_0 10836None 10837V4_0 10839None 1083cV4_0 1083dNone 1083fV4_0
    10840V5_2 10856None 10857V5_2 10860V7_0 1089fNone 108a7V7_0 108b0None 108e0V8_0 108f3None
    108f4V8_0 108f6None 108fbV8_0 10900V5_0 1091aV5_2 1091cNone 1091fV5_0 10920V5_1 1093aNone
    1093fV5_1 10940None 10980V6_1 109b8None 109bcV8_0 109beV6_1 109c0V8_0 109d0None 109d2V8_0
    10a00V4_1 10a04None 10a05V4_1 10a07None 10a0cV4_1 10a14None 10a15V4_1 10a18None 10a19V4_1
    10a34V11_0 10a36None 10a38V4_1 10a3bNone 10a3fV4_1 10a48V11_0 10a49None 10a50V4_1 10a59None
    10a60V5_2 10a80V7_0 10aa0None 10ac0V7_0 10ae7None 10aebV7_0 10af7None 10b00V5_2 10b36None
    10b39V5_2 10b56None 10b58V5_2 10b73None 10b78V5_2 10b80V7_0 10b92None 10b99V7_0 10b9dNone
    10ba9V7_0 10bb0None 10c00V5_2 10c49None 10c80V8_0 10cb3None 10cc0V8_0 10cf3None 10cfaV8_0
    10d00V11_0 10d28None 10d30V11_0 10d3aNone 10d40V16_0 10d66None 10d69V16_0 10d86None
    10d8eV16_0 10d90None 10e60V5_2 10e7fNone 10e80V13_0 10eaaNone 10eabV13_0 10eaeNone
    10eb0V13_0 10eb2None 10ec2V16_0 10ec5None 10efcV16_0 10efdV15_0 10f00V11_0 10f28None
    10f30V11_0 10f5aNone 10f70V14_0 10f8aNone 10fb0V13_0 10fccNone 10fe0V12_0 10ff7None
    11000V6_0 1104eNone 11052V6_0 11070V14_0 11076None 1107fV7_0 11080V5_2 110c2V14_0 110c3None
    110cdV11_0 110ceNone 110d0V6_1 110e9None 110f0V6_1 110faNone 11100V6_1 11135None 11136V6_1
    11144V11_0 11147V13_0 11148None 11150V7_0 11177None 11180V6_1 111c9V8_0 111cdV7_0 111ceV13_0
    111d0V6_1 111daV7_0 111dbV8_0 111e0None 111e1V7_0 111f5None 11200V7_0 11212None 11213V7_0
    1123eV9_0 1123fV15_0 11242None 11280V8_0 11287None 11288V8_0 11289None 1128aV8_0 1128eNone
    1128fV8_0 1129eNone 1129fV8_0 112aaNone 112b0V7_0 112ebNone 112f0V7_0 112faNone 11300V8_0
    11301V7_0 11304None 11305V7_0 1130dNone 1130fV7_0 11311None 11313V7_0 11329None 1132aV7_0
    11331None 11332V7_0 11334None 11335V7_0 1133aNone 1133bV11_0 1133cV7_0 11345None 11347V7_0
    11349None 1134bV7_0 1134eNone 11350V8_0 11351None 11357V7_0 11358None 1135dV7_0 11364None
    11366V7_0 1136dNone 11370V7_0 11375None 11380V16_0 1138aNone 1138bV16_0 1138cNone 1138eV16_0
    1138fNone 11390V16_0 113b6None 113b7V16_0 113c1None 113c2V16_0 113c3None 113c5V16_0
    113c6None 113c7V16_0 113cbNone 113ccV16_0 113d6None 113d7V16_0 113d9None 113e1V16_0
    113e3None 11400V9_0 1145aV13_0 1145bV9_0 1145cNone 1145dV9_0 1145eV11_0 1145fV12_0
    11460V13_0 11462None 11480V7_0 114c8None 114d0V7_0 114daNone 11580V7_0 115b6None 115b8V7_0
    115caV8_0 115deNone 11600V7_0 11645None 11650V7_0 1165aNone 11660V9_0 1166dNone 11680V6_1
    116b8V12_0 116b9V14_0 116baNone 116c0V6_1 116caNone 116d0V16_0 116e4None 11700V8_0
    1171aV11_0 1171bNone 1171dV8_0 1172cNone 11730V8_0 11740V14_0 11747None 11800V11_0 1183cNone
    118a0V7_0 118f3None 118ffV7_0 11900V13_0 11907None 11909V13_0 1190aNone 1190cV13_0 11914None
    11915V13_0 11917None 11918V13_0 11936None 11937V13_0 11939None 1193bV13_0 11947None
    11950V13_0 1195aNone 119a0V12_0 119a8None 119aaV12_0 119d8None 119daV12_0 119e5None
    11a00V10_0 11a48None 11a50V10_0 11a84V12_0 11a86V10_0 11a9dV11_0 11a9eV10_0 11aa3None
    11ab0V14_0 11ac0V7_0 11af9None 11b00V15_0 11b0aNone 11bc0V16_0 11be2None 11bf0V16_0
    11bfaNone 11c00V9_0 11c09None 11c0aV9_0 11c37None 11c38V9_0 11c46None 11c50V9_0 11c6dNone
    11c70V9_0 11c90None 11c92V9_0 11ca8None 11ca9V9_0 11cb7None 11d00V10_0 11d07None 11d08V10_0
    11d0aNone 11d0bV10_0 11d37None 11d3aV10_0 11d3bNone 11d3cV10_0 11d3eNone 11d3fV10_0
    11d48None 11d50V10_0 11d5aNone 11d60V11_0 11d66None 11d67V11_0 11d69None 11d6aV11_0
    11d8fNone 11d90V11_0 11d92None 11d93V11_0 11d99None 11da0V11_0 11daaNone 11ee0V11_0
    11ef9None 11f00V15_0 11f11None 11f12V15_0 11f3bNone 11f3eV15_0 11f5aV16_0 11f5bNone
    11fb0V13_0 11fb1None 11fc0V12_0 11ff2None 11fffV12_0 12000V5_0 1236fV7_0 12399V8_0 1239aNone
    12400V5_0 12463V7_0 1246fNone 12470V5_0 12474V7_0 12475None 12480V8_0 12544None 12f90V14_0
    12ff3None 13000V5_2 1342fV15_0 13430V12_0 13439V15_0 13456None 13460V16_0 143fbNone
    14400V8_0 14647None 16100V16_0 1613aNone 16800V6_0 16a39None 16a40V7_0 16a5fNone 16a60V7_0
    16a6aNone 16a6eV7_0 16a70V14_0 16abfNone 16ac0V14_0 16acaNone 16ad0V7_0 16aeeNone 16af0V7_0
    16af6None 16b00V7_0 16b46None 16b50V7_0 16b5aNone 16b5bV7_0 16b62None 16b63V7_0 16b78None
    16b7dV7_0 16b90None 16d40V16_0 16d7aNone 16e40V11_0 16e9bNone 16f00V6_1 16f45V12_0 16f4bNone
    16f4fV12_0 16f50V6_1 16f7fV12_0 16f88None 16f8fV6_1 16fa0None 16fe0V9_0 16fe1V10_0
    16fe2V12_0 16fe4V13_0 16fe5None 16ff0V13_0 16ff2None 17000V9_0 187edV11_0 187f2V12_0
    187f8None 18800V9_0 18af3V13_0 18cd6None 18cffV16_0 18d00V13_0 18d09None 1aff0V14_0
    1aff4None 1aff5V14_0 1affcNone 1affdV14_0 1afffNone 1b000V6_0 1b002V10_0 1b11fV14_0
    1b123None 1b132V15_0 1b133None 1b150V12_0 1b153None 1b155V15_0 1b156None 1b164V12_0
    1b168None 1b170V10_0 1b2fcNone 1bc00V7_0 1bc6bNone 1bc70V7_0 1bc7dNone 1bc80V7_0 1bc89None
    1bc90V7_0 1bc9aNone 1bc9cV7_0 1bca4None 1cc00V16_0 1ccfaNone 1cd00V16_0 1ceb4None 1cf00V14_0
    1cf2eNone 1cf30V14_0 1cf47None 1cf50V14_0 1cfc4None 1d000V3_1 1d0f6None 1d100V3_1 1d127None
    1d129V5_1 1d12aV3_1 1d1deV8_0 1d1e9V14_0 1d1ebNone 1d200V4_1 1d246None 1d2c0V15_0 1d2d4None
    1d2e0V11_0 1d2f4None 1d300V4_0 1d357None 1d360V5_0 1d372V11_0 1d379None 1d400V3_1 1d455None
    1d456V3_1 1d49dNone 1d49eV3_1 1d4a0None 1d4a2V3_1 1d4a3None 1d4a5V3_1 1d4a7None 1d4a9V3_1
    1d4adNone 1d4aeV3_1 1d4baNone 1d4bbV3_1 1d4bcNone 1d4bdV3_1 1d4c1V4_0 1d4c2V3_1 1d4c4None
    1d4c5V3_1 1d506None 1d507V3_1 1d50bNone 1d50dV3_1 1d515None 1d516V3_1 1d51dNone 1d51eV3_1
    1d53aNone 1d53bV3_1 1d53fNone 1d540V3_1 1d545None 1d546V3_1 1d547None 1d54aV3_1 1d551None
    1d552V3_1 1d6a4V4_1 1d6a6None 1d6a8V3_1 1d7caV5_0 1d7ccNone 1d7ceV3_1 1d800V8_0 1da8cNone
    1da9bV8_0 1daa0None 1daa1V8_0 1dab0None 1df00V14_0 1df1fNone 1df25V15_0 1df2bNone 1e000V9_0
    1e007None 1e008V9_0 1e019None 1e01bV9_0 1e022None 1e023V9_0 1e025None 1e026V9_0 1e02bNone
    1e030V15_0 1e06eNone 1e08fV15_0 1e090None 1e100V12_0 1e12dNone 1e130V12_0 1e13eNone
    1e140V12_0 1e14aNone 1e14eV12_0 1e150None 1e290V14_0 1e2afNone 1e2c0V12_0 1e2faNone
    1e2ffV12_0 1e300None 1e4d0V15_0 1e4faNone 1e5d0V16_0 1e5fbNone 1e5ffV16_0 1e600None
    1e7e0V14_0 1e7e7None 1e7e8V14_0 1e7ecNone 1e7edV14_0 1e7efNone 1e7f0V14_0 1e7ffNone
    1e800V7_0 1e8c5None 1e8c7V7_0 1e8d7None 1e900V9_0 1e94bV12_0 1e94cNone 1e950V9_0 1e95aNone
    1e95eV9_0 1e960None 1ec71V11_0 1ecb5None 1ed01V12_0 1ed3eNone 1ee00V6_1 1ee04None 1ee05V6_1
    1ee20None 1ee21V6_1 1ee23None 1ee24V6_1 1ee25None 1ee27V6_1 1ee28None 1ee29V6_1 1ee33None
    1ee34V6_1 1ee38None 1ee39V6_1 1ee3aNone 1ee3bV6_1 1ee3cNone 1ee42V6_1 1ee43None 1ee47V6_1
    1ee48None 1ee49V6_1 1ee4aNone 1ee4bV6_1 1ee4cNone 1ee4dV6_1 1ee50None 1ee51V6_1 1ee53None
    1ee54V6_1 1ee55None 1ee57V6_1 1ee58None 1ee59V6_1 1ee5aNone 1ee5bV6_1 1ee5cNone 1ee5dV6_1
    1ee5eNone 1ee5fV6_1 1ee60None 1ee61V6_1 1ee63None 1ee64V6_1 1ee65None 1ee67V6_1 1ee6bNone
    1ee6cV6_1 1ee73None 1ee74V6_1 1ee78None 1ee79V6_1 1ee7dNone 1ee7eV6_1 1ee7fNone 1ee80V6_1
    1ee8aNone 1ee8bV6_1 1ee9cNone 1eea1V6_1 1eea4None 1eea5V6_1 1eeaaNone 1eeabV6_1 1eebcNone
    1eef0V6_1 1eef2None 1f000V5_1 1f02cNone 1f030V5_1 1f094None 1f0a0V6_0 1f0afNone 1f0b1V6_0
    1f0bfV7_0 1f0c0None 1f0c1V6_0 1f0d0None 1f0d1V6_0 1f0e0V7_0 1f0f6None 1f100V5_2 1f10bV7_0
    1f10dV13_0 1f110V5_2 1f12fV11_0 1f130V6_0 1f131V5_2 1f132V6_0 1f13dV5_2 1f13eV6_0 1f13fV5_2
    1f140V6_0 1f142V5_2 1f143V6_0 1f146V5_2 1f147V6_0 1f14aV5_2 1f14fV6_0 1f157V5_2 1f158V6_0
    1f15fV5_2 1f160V6_0 1f16aV6_1 1f16cV12_0 1f16dV13_0 1f170V6_0 1f179V5_2 1f17aV6_0 1f17bV5_2
    1f17dV6_0 1f17fV5_2 1f180V6_0 1f18aV5_2 1f18eV6_0 1f190V5_2 1f191V6_0 1f19bV9_0 1f1adV13_0
    1f1aeNone 1f1e6V6_0 1f200V5_2 1f201V6_0 1f203None 1f210V5_2 1f232V6_0 1f23bV9_0 1f23cNone
    1f240V5_2 1f249None 1f250V6_0 1f252None 1f260V10_0 1f266None 1f300V6_0 1f321V7_0 1f32dV8_0
    1f330V6_0 1f336V7_0 1f337V6_0 1f37dV7_0 1f37eV8_0 1f380V6_0 1f394V7_0 1f3a0V6_0 1f3c5V7_0
    1f3c6V6_0 1f3cbV7_0 1f3cfV8_0 1f3d4V7_0 1f3e0V6_0 1f3f1V7_0 1f3f8V8_0 1f400V6_0 1f43fV7_0
    1f440V6_0 1f441V7_0 1f442V6_0 1f4f8V7_0 1f4f9V6_0 1f4fdV7_0 1f4ffV8_0 1f500V6_0 1f53eV7_0
    1f540V6_1 1f544V7_0 1f54bV8_0 1f550V6_0 1f568V7_0 1f57aV9_0 1f57bV7_0 1f5a4V9_0 1f5a5V7_0
    1f5fbV6_0 1f600V6_1 1f601V6_0 1f611V6_1 1f612V6_0 1f615V6_1 1f616V6_0 1f617V6_1 1f618V6_0
    1f619V6_1 1f61aV6_0 1f61bV6_1 1f61cV6_0 1f61fV6_1 1f620V6_0 1f626V6_1 1f628V6_0 1f62cV6_1
    1f62dV6_0 1f62eV6_1 1f630V6_0 1f634V6_1 1f635V6_0 1f641V7_0 1f643V8_0 1f645V6_0 1f650V7_0
    1f680V6_0 1f6c6V7_0 1f6d0V8_0 1f6d1V9_0 1f6d3V10_0 1f6d5V12_0 1f6d6V13_0 1f6d8None
    1f6dcV15_0 1f6ddV14_0 1f6e0V7_0 1f6edNone 1f6f0V7_0 1f6f4V9_0 1f6f7V10_0 1f6f9V11_0
    1f6faV12_0 1f6fbV13_0 1f6fdNone 1f700V6_0 1f774V15_0 1f777None 1f77bV15_0 1f780V7_0
    1f7d5V11_0 1f7d9V15_0 1f7daNone 1f7e0V12_0 1f7ecNone 1f7f0V14_0 1f7f1None 1f800V7_0
    1f80cNone 1f810V7_0 1f848None 1f850V7_0 1f85aNone 1f860V7_0 1f888None 1f890V7_0 1f8aeNone
    1f8b0V13_0 1f8b2V16_0 1f8bcNone 1f8c0V16_0 1f8c2None 1f900V10_0 1f90cV13_0 1f90dV12_0
    1f910V8_0 1f919V9_0 1f91fV10_0 1f920V9_0 1f928V10_0 1f930V9_0 1f931V10_0 1f933V9_0
    1f93fV12_0 1f940V9_0 1f94cV10_0 1f94dV11_0 1f950V9_0 1f95fV10_0 1f96cV11_0 1f971V12_0
    1f972V13_0 1f973V11_0 1f977V13_0 1f979V14_0 1f97aV11_0 1f97bV12_0 1f97cV11_0 1f980V8_0
    1f985V9_0 1f992V10_0 1f998V11_0 1f9a3V13_0 1f9a5V12_0 1f9abV13_0 1f9aeV12_0 1f9b0V11_0
    1f9baV12_0 1f9c0V8_0 1f9c1V11_0 1f9c3V12_0 1f9cbV13_0 1f9ccV14_0 1f9cdV12_0 1f9d0V10_0
    1f9e7V11_0 1fa00V12_0 1fa54None 1fa60V11_0 1fa6eNone 1fa70V12_0 1fa74V13_0 1fa75V15_0
    1fa78V12_0 1fa7bV14_0 1fa7dNone 1fa80V12_0 1fa83V13_0 1fa87V15_0 1fa89V16_0 1fa8aNone
    1fa8fV16_0 1fa90V12_0 1fa96V13_0 1faa9V14_0 1faadV15_0 1fab0V13_0 1fab7V14_0 1fabbV15_0
    1fabeV16_0 1fabfV15_0 1fac0V13_0 1fac3V14_0 1fac6V16_0 1fac7None 1faceV15_0 1fad0V13_0
    1fad7V14_0 1fadaV15_0 1fadcV16_0 1faddNone 1fadfV16_0 1fae0V14_0 1fae8V15_0 1fae9V16_0
    1faeaNone 1faf0V14_0 1faf7V15_0 1faf9None 1fb00V13_0 1fb93None 1fb94V13_0 1fbcbV16_0
    1fbf0V13_0 1fbfaNone 1fffeV2_0 20000V3_1 2a6d7V13_0 2a6deV14_0 2a6e0None 2a700V5_2
    2b735V14_0 2b739V15_0 2b73aNone 2b740V6_0 2b81eNone 2b820V8_0 2cea2None 2ceb0V10_0 2ebe1None
    2ebf0V15_1 2ee5eNone 2f800V3_1 2fa1eNone 2fffeV2_0 30000V13_0 3134bNone 31350V15_0 323b0None
    3fffeV2_0 40000None 4fffeV2_0 50000None 5fffeV2_0 60000None 6fffeV2_0 70000None 7fffeV2_0
    80000None 8fffeV2_0 90000None 9fffeV2_0 a0000None afffeV2_0 b0000None bfffeV2_0 c0000None
    cfffeV2_0 d0000None dfffeV2_0 e0000None e0001V3_1 e0002None e0020V3_1 e0080None e0100V4_0
    e01f0None efffeV2_0"

/-- The editions in the order in which they came. -/
def editions : List String :=
  (tableWords
    "V1_1 V2_0 V2_1 V3_0 V3_1 V3_2 V4_0 V4_1 V5_0 V5_1 V5_2 V6_0 V6_1 V6_2 V6_3 V7_0 V8_0 V9_0
    V10_0 V11_0 V12_0 V12_1 V13_0 V14_0 V15_0 V15_1 V16_0").map
    String.ofList

/-- The names of an edition in the form in which names are compared: the label without its
separator, and the number with a point. -/
def editionNames (edition : String) : List String :=
  [String.ofList ((edition.toList.map Char.toLower).filter (· != '_')),
    String.ofList ((edition.toList.drop 1).map fun c => if c == '_' then '.' else c)]

/-- The characters of an edition and of those before it, by a name of the edition. -/
def editionSet? (key : String) : Option CharSet :=
  (editions.find? fun edition => (editionNames edition).contains key).map fun edition =>
    let earlier := editions.takeWhile (· != edition)
    ageTable.setOf fun label => label == edition || earlier.contains label

end CommandGrammar
